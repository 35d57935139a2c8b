import PWR.Roster.Format
import PWR.Roster.Isolation
import PWR.Bill
import PWR.Session.Choice
import PWR.Session.Logout
import PWR.Session.Login
import PWR.Screen.Picker
import PWR.Screen.Search
import PWR.Screen.Home
import PWR.Screen.Flow
import PWR.Screen.Senator
import PWR.Screen.HomeTable
import PWR.Screen.HomeChoice
import PWR.Lib.Simulation
import PWR.Screen.Account
import PWR.Screen.Kill
import PWR.Roster.Stream
import PWR.Screen.Detail
import PWR.Screen.Login
import PWR.Screen.Members
import PWR.Screen.Recovery
import PWR.Screen.Recycled
import PWR.Screen.Outline
