import WorkbookSite.Text.Blank
import WorkbookSite.Text.Uppercase
import WorkbookSite.Text.Quoted
import WorkbookSite.Decimal.Shortest
import WorkbookSite.Workbook
import WorkbookSite.Workbook.Reader
import WorkbookSite.Page
import WorkbookSite.Markup.CharacterReference
import WorkbookSite.Markup.Sink
import WorkbookSite.Markup.Token
import WorkbookSite.Markup.Fragment
import WorkbookSite.Rendering
import WorkbookSite.Files.FileSystem
import WorkbookSite.Site.Build
import WorkbookSite.Workbook.Stored
import WorkbookSite.Configuration
import WorkbookSite.CommandLine.Run
import WorkbookSite.Main
import WorkbookSite.Proofs.OpenedOutlines
import WorkbookSite.Proofs.PageOutline
import WorkbookSite.Proofs.OutlineSkeleton
import WorkbookSite.Proofs.RenderedRows
import WorkbookSite.Proofs.EscapedText
import WorkbookSite.Proofs.FragmentImage
import WorkbookSite.Proofs.FragmentRoundTrip
import WorkbookSite.Proofs.CleanBuild
import WorkbookSite.Proofs.SheetLayout
import WorkbookSite.Proofs.SpelledTags
import WorkbookSite.Proofs.SpelledTokens
import WorkbookSite.Proofs.ImpliedEnds
import WorkbookSite.Proofs.NestedElements
import WorkbookSite.Proofs.ReadBackPages
import WorkbookSite.Proofs.FollowedPaths
import WorkbookSite.Proofs.MaintainedActions
import WorkbookSite.Proofs.MaintainedBuilds
import WorkbookSite.Proofs.CheckedBuild
import WorkbookSite.Proofs.FileTrees
import WorkbookSite.Proofs.ConfinedBuild
import WorkbookSite.Proofs.SuccessfulBuilds
import WorkbookSite.Proofs.SurvivingDocuments
import WorkbookSite.Proofs.OpenedDirectories
import WorkbookSite.Proofs.ClearedOutput
import WorkbookSite.Proofs.FilledOutput
import WorkbookSite.Proofs.CopiedAssets
import WorkbookSite.Proofs.FittingBuild
import WorkbookSite.Proofs.SheetPages
import WorkbookSite.Proofs.StoredValues
import WorkbookSite.Proofs.RowFaults
import WorkbookSite.Proofs.AlikeLocales
import WorkbookSite.Proofs.HeaderCells
import WorkbookSite.Proofs.MappedOutlines
import WorkbookSite.Proofs.AddedLocale
import WorkbookSite.Proofs.NestedForests
import WorkbookSite.Proofs.WrittenOutlines
import WorkbookSite.Proofs.MirroredAssets
import WorkbookSite.Proofs.PlainPaths
import WorkbookSite.Proofs.PlainBuilds
import WorkbookSite.Proofs.OutputTrees
import WorkbookSite.Proofs.RepeatedBuilds
import WorkbookSite.Proofs.WorkingDirectories
import WorkbookSite.Proofs.DeterminedOutput
import WorkbookSite.Proofs.SameCells
import WorkbookSite.Proofs.SiteProblems
import WorkbookSite.Proofs.UsedRanges
import WorkbookSite.Proofs.GrowingSites
import WorkbookSite.Proofs.WrappedFragments
import WorkbookSite.Proofs.BadRows
import WorkbookSite.Proofs.GuardedDirectories
import WorkbookSite.Proofs.ReopenedDirectories
import WorkbookSite.Proofs.AddedFiles
import WorkbookSite.Proofs.EmptiedAssets
import WorkbookSite.Proofs.KeptFiles
import WorkbookSite.Proofs.AgreeingWrites
import WorkbookSite.Proofs.RemadeDirectories
import WorkbookSite.Proofs.RespelledSites
import WorkbookSite.Proofs.RespelledBuilds
import WorkbookSite.Proofs.SitemapEntries
import WorkbookSite.Proofs.PathOrder
import WorkbookSite.Proofs.WalkedFiles
import WorkbookSite.Proofs.LoadedWorkbooks
import WorkbookSite.Proofs.DiscoveredWorkbooks
import WorkbookSite.Proofs.MergedTrees
import WorkbookSite.Proofs.CopiedTrees
import WorkbookSite.Proofs.SkippedLevels
import WorkbookSite.Proofs.ResolvedValues
import WorkbookSite.Proofs.ReadCells
import WorkbookSite.Proofs.InsertedRows
import WorkbookSite.Proofs.WrittenPrefixes
import WorkbookSite.Proofs.LanguagePlacement
import WorkbookSite.Proofs.FoldedCase
import WorkbookSite.Proofs.RespelledNames
import WorkbookSite.Proofs.Patterns
import WorkbookSite.Proofs.TagPatterns
import WorkbookSite.Proofs.AttributeGrammar
import WorkbookSite.Proofs.MatchedTags
import WorkbookSite.Proofs.WalkedOutlines
import WorkbookSite.Proofs.ScaffoldedSites
import WorkbookSite.Proofs.ByteOffsets
import WorkbookSite.Proofs.ReadingRounds
import WorkbookSite.Proofs.FaultOffsets
