import LocalGo.Model
import LocalGo.Filepath
import LocalGo.Os
import LocalGo.Handlers
import LocalGo.Sequential
import LocalGo.Interleaving
import LocalGo.Invariant
import LocalGo.Upload
import LocalGo.Cancel
import LocalGo.Discovery
import LocalGo.Multicast
import LocalGo.Storage
import LocalGo.Registry
import LocalGo.Scan
import LocalGo.Output
import LocalGo.Commands
import LocalGo.Send
import LocalGo.Recipient
