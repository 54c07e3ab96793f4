import Silicio.Paging
import Silicio.Strings
import Silicio.Tasks
import Silicio.Exec
import Silicio.Rotation
import Silicio.Sched
import Silicio.Registry
import Silicio.Runs
import Silicio.Ports
import Silicio.Syscall
import Silicio.Boot
import Silicio.Driver
import Silicio.Ledger
import Silicio.Outcome
import Silicio.Owners
import Silicio.Reply
import Silicio.Rejects
import Silicio.Transfer
import Silicio.Gates
import Silicio.Modules
import Silicio.Buffers
import Silicio.IoMap
import Silicio.Opens
import Silicio.Covers
import Silicio.Names
import Silicio.Pages
import Silicio.Grants
import Silicio.Space
import Silicio.Mask
import Silicio.Fast
import Silicio.Pixels
import Silicio.Ext2
import Silicio.Glyphs
import Silicio.Background
import Silicio.PortBytes
import Silicio.Sizing
import Silicio.Scattered
import Silicio.Floppy
import Silicio.Paths
import Silicio.Entries
import Silicio.Scan
import Silicio.BmpFile
import Silicio.Vectors
import Silicio.Switching
import Silicio.Processor
import Silicio.Contexts
import Silicio.Startup
import Silicio.Phases
import Silicio.Congruence
import Silicio.Virtual
import Silicio.Intact
import Silicio.Waiting
import Silicio.Deadlock
import Silicio.Cycles
import Silicio.Integrity
import Silicio.Drive
