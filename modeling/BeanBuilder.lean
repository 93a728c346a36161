import BeanBuilder.Draft.Session
import BeanBuilder.Main
import BeanBuilder.Proofs.AccessorName
import BeanBuilder.Proofs.Member
import BeanBuilder.Proofs.BuilderText
import BeanBuilder.Proofs.BuilderMeaning
import BeanBuilder.Proofs.Pairing
import BeanBuilder.Proofs.Hierarchy
import BeanBuilder.Proofs.Classification
import BeanBuilder.Proofs.Round
import BeanBuilder.Proofs.Draft.Braces
import BeanBuilder.Proofs.Draft.Balance
import BeanBuilder.Proofs.TypeText
import BeanBuilder.Proofs.Java.Names
import BeanBuilder.Proofs.Java.ReadNames
import BeanBuilder.Proofs.Java.RenderedType
import BeanBuilder.Proofs.Draft.MethodSteps
import BeanBuilder.Proofs.Draft.Replay
import BeanBuilder.Proofs.MethodOverloads
import BeanBuilder.Proofs.Java.ReadBuilder
import BeanBuilder.Proofs.Java.Scanning
import BeanBuilder.Proofs.Java.TypeTokens
import BeanBuilder.Proofs.Java.Taking
import BeanBuilder.Proofs.Java.Statements
import BeanBuilder.Proofs.Java.ReadMembers
import BeanBuilder.Proofs.Java.BuilderNames
import BeanBuilder.Proofs.Java.ReadClass
import BeanBuilder.Proofs.Java.ReadDeclarations
import BeanBuilder.Proofs.Java.ReadBeans
import BeanBuilder.Proofs.Java.Elements
import BeanBuilder.Proofs.Results
import BeanBuilder.Proofs.Files.Store
import BeanBuilder.Proofs.Lineage
import BeanBuilder.Proofs.Java.Catalogs
import BeanBuilder.Proofs.Java.Linking
import BeanBuilder.Proofs.Java.ReadingOrder
import BeanBuilder.Proofs.Draft.Lines
import BeanBuilder.Proofs.Draft.CallLines
import BeanBuilder.Proofs.Draft.Pages
import BeanBuilder.Proofs.Java.ReadFiles
import BeanBuilder.Proofs.Text.Utf8
import BeanBuilder.Proofs.Text.Pieces
import BeanBuilder.Proofs.Files.Path
import BeanBuilder.Proofs.Data.Values
import BeanBuilder.Proofs.Settings.Saving
import BeanBuilder.Proofs.CommandLine.Runs
import BeanBuilder.Proofs.CommandLine.Sessions
import BeanBuilder.Proofs.Files.Layout
import BeanBuilder.Proofs.Files.Rounds
import BeanBuilder.Proofs.Java.ListedClasses
import BeanBuilder.Proofs.CommandLine.Generation
import BeanBuilder.Proofs.Outcomes
import BeanBuilder.Proofs.Settings.Precedence
import BeanBuilder.Proofs.Java.PackageMates
import BeanBuilder.Proofs.Java.ArrayTypes
import BeanBuilder.Proofs.Draft.Stepwise
import BeanBuilder.Proofs.Draft.Refusals
import BeanBuilder.Proofs.UnusableNames
import BeanBuilder.Proofs.Layouts
import BeanBuilder.Proofs.PairingSignatures
import BeanBuilder.Proofs.LenientPairing
import BeanBuilder.Proofs.Ascent
import BeanBuilder.Proofs.Flattening
import BeanBuilder.Proofs.FieldNames
import BeanBuilder.Proofs.Java.WrittenOut
import BeanBuilder.Proofs.Files.Folders
import BeanBuilder.Proofs.Draft.BlockHistory
import BeanBuilder.Proofs.Files.Walk
import BeanBuilder.Proofs.Settings.History
import BeanBuilder.Proofs.Java.Rereading
