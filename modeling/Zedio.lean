import Zedio.Io.Result
import Zedio.Net.SyncClose
import Zedio.Net.Ownership
import Zedio.Net.WriteAll
import Zedio.Net.StatusFlags
import Zedio.Net.SockOpt
import Zedio.Net.BuildStream
import Zedio.Net.Listener
