import NamedCapture.Engine.Linear
import NamedCapture.Engine.Lookaround
import NamedCapture.Session
import NamedCapture.Proofs.Slices
import NamedCapture.Proofs.Places
import NamedCapture.Proofs.Scanning
import NamedCapture.Proofs.Grammar
import NamedCapture.Proofs.CharacterScan
import NamedCapture.Proofs.Locality
import NamedCapture.Proofs.Acceptance
import NamedCapture.Proofs.Kinds
import NamedCapture.Proofs.Languages
import NamedCapture.Proofs.Tabulation
import NamedCapture.Proofs.Numbering
import NamedCapture.Proofs.Simplification
import NamedCapture.Proofs.EngineNumbering
import NamedCapture.Proofs.Mapping
import NamedCapture.Proofs.Alignment
import NamedCapture.Proofs.Excisions
import NamedCapture.Proofs.Annotations
import NamedCapture.Proofs.Fallbacks
import NamedCapture.Proofs.Relocation
import NamedCapture.Proofs.Outcomes
import NamedCapture.Proofs.Lookup
import NamedCapture.Proofs.Batches
import NamedCapture.Proofs.LifeCycle
import NamedCapture.Proofs.Logging
import NamedCapture.Proofs.Selection
import NamedCapture.Proofs.FirstMatch
import NamedCapture.Proofs.Pairing
import NamedCapture.Proofs.Verdict
import NamedCapture.Proofs.InlineFlags
import NamedCapture.Proofs.Composition
import NamedCapture.Proofs.Relabeling
import NamedCapture.Proofs.NameBlindness
import NamedCapture.Proofs.Consumption
import NamedCapture.Proofs.ClassReading
import NamedCapture.Proofs.Regularity
import NamedCapture.Proofs.GroupCursor
import NamedCapture.Proofs.LinearReading
import NamedCapture.Proofs.LookaroundConsumption
import NamedCapture.Proofs.LookaroundReading
import NamedCapture.Proofs.Dialects
import NamedCapture.Proofs.FalseAlarms
import NamedCapture.Proofs.KindLocality
import NamedCapture.Proofs.Copying
import NamedCapture.Proofs.Accounting
import NamedCapture.Proofs.Iterations
