import StoryLoom.Text.Caseless
import StoryLoom.Text.Blank
import StoryLoom.Numeral.Base36
import StoryLoom.Table
import StoryLoom.Graph.Walk
import StoryLoom.Unicode.Word
import StoryLoom.Unicode.CaseVariant
import StoryLoom.Text.Quoted
import StoryLoom.Pattern.Legal
import StoryLoom.Template.Vocabulary
import StoryLoom.Template.Inline
import StoryLoom.Dictionary.Escapes
import StoryLoom.Dictionary.Merge
import StoryLoom.Dictionary.Check
import StoryLoom.Story.Construction
import StoryLoom.Story.Ownership
import StoryLoom.Story.OwnerChain
import StoryLoom.Story.Place
import StoryLoom.Generation.Context
import StoryLoom.Generation.Series
import StoryLoom.Generation.Data
import StoryLoom.Generation.Pass
import StoryLoom.Document.Dictionary
import StoryLoom.Document.Story
import StoryLoom.Main
import StoryLoom.Proofs.Generation.Computation
import StoryLoom.Proofs.Generation.Repetition
import StoryLoom.Proofs.Story.Keyed
import StoryLoom.Proofs.Generation.Reach
import StoryLoom.Proofs.Generation.Agreement
import StoryLoom.Proofs.Dictionary.Clean
import StoryLoom.Proofs.Generation.Expected
import StoryLoom.Proofs.Generation.Linted
import StoryLoom.Proofs.Story.Change
import StoryLoom.Proofs.Table.Listing
import StoryLoom.Proofs.Story.Linked
import StoryLoom.Proofs.Story.Rebuild
import StoryLoom.Proofs.Graph.Reachability
import StoryLoom.Proofs.List.EraseDups
import StoryLoom.Proofs.Generation.Located
import StoryLoom.Proofs.Generation.Coverage
import StoryLoom.Proofs.Generation.Indentation
import StoryLoom.Proofs.Generation.Presentation
import StoryLoom.Proofs.Dictionary.Splitting
import StoryLoom.Proofs.Dictionary.Stripping
import StoryLoom.Proofs.Story.Following
import StoryLoom.Proofs.Pattern.Positions
import StoryLoom.Proofs.Pattern.Spans
import StoryLoom.Proofs.Pattern.Closing.Input
import StoryLoom.Proofs.Pattern.Closing.Items
import StoryLoom.Proofs.Pattern.Anchored
import StoryLoom.Proofs.Template.Spelling
import StoryLoom.Proofs.Generation.Distinct
import StoryLoom.Proofs.Generation.Strict
import StoryLoom.Proofs.Generation.Ending
import StoryLoom.Proofs.Naming.Candidates
import StoryLoom.Proofs.Naming.Supply
import StoryLoom.Proofs.Dictionary.Layers
import StoryLoom.Proofs.Dictionary.CleanLayers
import StoryLoom.Proofs.Dictionary.Findings
import StoryLoom.Proofs.Graph.Breadth
import StoryLoom.Proofs.Graph.Preorder
import StoryLoom.Proofs.Story.Walks
import StoryLoom.Proofs.Story.Relinking
import StoryLoom.Proofs.Story.Leftover
import StoryLoom.Proofs.Generation.Pieces
import StoryLoom.Proofs.Generation.Chances
import StoryLoom.Proofs.Generation.Unique
import StoryLoom.Proofs.Generation.Origin
import StoryLoom.Proofs.Generation.Enclosed
import StoryLoom.Proofs.Generation.Places
import StoryLoom.Proofs.Generation.Subject
import StoryLoom.Proofs.Filing.Direct
import StoryLoom.Proofs.Dictionary.Folders
import StoryLoom.Proofs.Story.Enclosing
