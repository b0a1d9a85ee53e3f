import MonkeyLang.Session
import MonkeyLang.Proofs.Confinement
import MonkeyLang.Proofs.Frame
import MonkeyLang.Proofs.Independence
import MonkeyLang.Proofs.Soundness
import MonkeyLang.Proofs.Provenance
import MonkeyLang.Proofs.Host
import MonkeyLang.Proofs.Inheritance
import MonkeyLang.Proofs.Interleaving
import MonkeyLang.Proofs.Leniency
import MonkeyLang.Proofs.Representation
import MonkeyLang.Proofs.Unread
import MonkeyLang.Proofs.Range
import MonkeyLang.Proofs.Trace
import MonkeyLang.Proofs.Unwinding
import MonkeyLang.Proofs.Parameters
import MonkeyLang.Proofs.Arrival
import MonkeyLang.Proofs.Comparison
import MonkeyLang.Proofs.HostEquality
import MonkeyLang.Proofs.Visibility
import MonkeyLang.Proofs.Arrays
import MonkeyLang.Proofs.Joining
import MonkeyLang.Proofs.Spelling
import MonkeyLang.Proofs.Termination
import MonkeyLang.Proofs.Fibonacci
import MonkeyLang.Proofs.Registry
