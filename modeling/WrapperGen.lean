import WrapperGen.CommandLine
import WrapperGen.Main
import WrapperGen.Proofs.AliasStability
import WrapperGen.Proofs.Caching
import WrapperGen.Proofs.EarlyFailure
import WrapperGen.Proofs.FailedRuns
import WrapperGen.Proofs.ImportNames
import WrapperGen.Proofs.Preservation
import WrapperGen.Proofs.RoundTrip
import WrapperGen.Proofs.SearchOrder
import WrapperGen.Proofs.ImportLines
import WrapperGen.Proofs.GuessedNames
import WrapperGen.Proofs.ImportScope
import WrapperGen.Proofs.WrapperTexts
import WrapperGen.Proofs.SettledAliases
import WrapperGen.Proofs.WholeWords
import WrapperGen.Proofs.ExactImports
import WrapperGen.Proofs.OwnPackage
import WrapperGen.Proofs.PackageOrder
import WrapperGen.Proofs.SpecifierOrder
import WrapperGen.Proofs.ListedNames
import WrapperGen.Proofs.DeclaredNames
import WrapperGen.Proofs.RealCycles
import WrapperGen.Proofs.GrowingPackages
import WrapperGen.Proofs.DeclarationOrder
import WrapperGen.Proofs.Forwarding
import WrapperGen.Proofs.BareNames
import WrapperGen.Proofs.MethodSources
import WrapperGen.Proofs.ExactConstants
import WrapperGen.Proofs.FileTags
import WrapperGen.Proofs.OverlappingMethods
import WrapperGen.Proofs.MethodClosure
import WrapperGen.Proofs.InferredPaths
import WrapperGen.Proofs.ConstGroups
import WrapperGen.Proofs.DirectoryPlans
import WrapperGen.Proofs.LexicalWalks
import WrapperGen.Proofs.HeaderComments
import WrapperGen.Proofs.LegalNames
import WrapperGen.Proofs.AliasSearch
