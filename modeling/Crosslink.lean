import Crosslink.CommandLine
import Crosslink.Files.Disk
import Crosslink.Main
import Crosslink.Proofs.Reference.Resolution
import Crosslink.Proofs.Symbols.MethodTitles
import Crosslink.Proofs.Symbols.History
import Crosslink.Proofs.Symbols.Transparency
import Crosslink.Proofs.TypeSpec.CanonicalText
import Crosslink.Proofs.TypeSpec.Derivation
import Crosslink.Proofs.TypeSpec.Image
import Crosslink.Proofs.Reference.Languages
import Crosslink.Proofs.TypeSpec.EarliestFault
import Crosslink.Proofs.Reference.Classification
import Crosslink.Proofs.Reference.OwnTitle
import Crosslink.Proofs.Reference.Spellings
import Crosslink.Proofs.Reference.TableGrowth
import Crosslink.Proofs.Reference.Labels
import Crosslink.Proofs.Reference.RuleOrder
import Crosslink.Proofs.Reference.Slugs
import Crosslink.Proofs.TypeSpec.Identifiers
import Crosslink.Proofs.Reference.Pages
import Crosslink.Proofs.Reference.SeeBodies
import Crosslink.Proofs.TypeSpec.Positions
import Crosslink.Proofs.Text.Decoder
import Crosslink.Proofs.Toml.Quoted
import Crosslink.Proofs.Toml.Settings
import Crosslink.Proofs.Project.ConfigText
import Crosslink.Proofs.Files.Named
import Crosslink.Proofs.Files.Directories
import Crosslink.Proofs.Project.ConfigOnDisk
import Crosslink.Proofs.Files.Tree
import Crosslink.Proofs.Project.AtomicSave
import Crosslink.Proofs.TypeSpec.LongestMatch
