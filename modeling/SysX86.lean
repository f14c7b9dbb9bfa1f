import SysX86.Bits
import SysX86.Machine
import SysX86.Address
import SysX86.PageTable
import SysX86.Walk
import SysX86.Features
import SysX86.Init
import SysX86.Run
import SysX86.Smp
import SysX86.UserCopy
import SysX86.Effect
