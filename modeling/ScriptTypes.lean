import ScriptTypes.Proofs.Collections.RegistrationOrder
import ScriptTypes.Proofs.Descriptor.DebugText
import ScriptTypes.Proofs.Descriptor.Inflection
import ScriptTypes.Proofs.Descriptor.PlainWord
import ScriptTypes.Proofs.Descriptor.Rebuilding
import ScriptTypes.Proofs.Descriptor.Reports
import ScriptTypes.Proofs.Descriptor.Trimming
import ScriptTypes.Proofs.Pattern.Weighing
import ScriptTypes.Proofs.Plural.Exactness
import ScriptTypes.Proofs.Plural.Scanning
import ScriptTypes.Proofs.Session
import ScriptTypes.Proofs.Session.Storage
import ScriptTypes.Proofs.Value.Literals
