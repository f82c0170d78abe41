import DocComment.Main
import DocComment.Files.Tree
import DocComment.Proofs.CheckedRuns
import DocComment.Proofs.NestedDocuments
import DocComment.Proofs.Recognition
import DocComment.Proofs.Concatenation
import DocComment.Proofs.Wrapping
import DocComment.Proofs.Outlines
import DocComment.Proofs.HeadersAndTags
import DocComment.Proofs.IsolatedParsers
import DocComment.Proofs.RefusedReplies
import DocComment.Proofs.Segmentation
import DocComment.Proofs.StandardFailures
import DocComment.Proofs.PrintedRuns
import DocComment.Proofs.TagSpelling
import DocComment.Proofs.TagParts
import DocComment.Proofs.NameBlanks
import DocComment.Proofs.Indentation
import DocComment.Proofs.LineEnds
import DocComment.Proofs.StreamedTexts
import DocComment.Proofs.BlockDocuments
import DocComment.Proofs.ReportedPlaces
import DocComment.Proofs.LinePatterns
