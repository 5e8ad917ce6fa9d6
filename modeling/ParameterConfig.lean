import ParameterConfig.Main
import ParameterConfig.Registry.Run
import ParameterConfig.Repository.Run
import ParameterConfig.Proofs.Credentials
import ParameterConfig.Proofs.Isolation
import ParameterConfig.Proofs.Lifecycle
import ParameterConfig.Proofs.Reference
import ParameterConfig.Proofs.Likeness
import ParameterConfig.Proofs.Availability
import ParameterConfig.Proofs.Shown
import ParameterConfig.Proofs.History
import ParameterConfig.Proofs.Secrecy
import ParameterConfig.Proofs.Separation
import ParameterConfig.Proofs.Reporting
import ParameterConfig.Proofs.Pagination
import ParameterConfig.Proofs.Closing
import ParameterConfig.Proofs.Resolving
import ParameterConfig.Proofs.Termination
import ParameterConfig.Proofs.Succession
import ParameterConfig.Proofs.Decoding
import ParameterConfig.Proofs.Flattening
import ParameterConfig.Proofs.Pool
import ParameterConfig.Proofs.Holding
import ParameterConfig.Proofs.Endings
import ParameterConfig.Proofs.Registrations
import ParameterConfig.Proofs.Bindings
import ParameterConfig.Proofs.Printing
import ParameterConfig.Proofs.Narration
