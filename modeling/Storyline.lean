import Storyline.Audience
import Storyline.Binary.Literal
import Storyline.Binary.Text
import Storyline.Main
import Storyline.Operation
import Storyline.Play.Rehearsal
import Storyline.Schedule.Agenda
import Storyline.Tree.Builder
import Storyline.Proofs.Text.Folding
import Storyline.Proofs.Store.Bounds
import Storyline.Proofs.Store.Kept
import Storyline.Proofs.Schedule.Queue
import Storyline.Proofs.Dialogue.Frame
import Storyline.Proofs.Dialogue.Outcome
import Storyline.Proofs.Saved.Restore
import Storyline.Proofs.Session.Run
import Storyline.Proofs.Session.Timer
import Storyline.Proofs.Saved.Failure
import Storyline.Proofs.Dialogue.Alike
import Storyline.Proofs.Saved.Transparency
import Storyline.Proofs.Schedule.Agenda
import Storyline.Proofs.Schedule.Meaning
import Storyline.Proofs.Session.Refusal
import Storyline.Proofs.Dialogue.Tale
import Storyline.Proofs.Session.Narration
import Storyline.Proofs.Dialogue.Mended
import Storyline.Proofs.Session.Mended
import Storyline.Proofs.Store.Observer
import Storyline.Proofs.Session.Observer
import Storyline.Proofs.Session.Sanity
import Storyline.Proofs.Tree.Sound
import Storyline.Proofs.Dialogue.Flawless
import Storyline.Proofs.Session.Flawless
import Storyline.Proofs.Text.Digits
import Storyline.Proofs.Ron.Quoted
import Storyline.Proofs.Ron.Numbers
import Storyline.Proofs.Ron.Values
import Storyline.Proofs.Files.Folder
import Storyline.Proofs.Saved.Slots
import Storyline.Proofs.Saved.RoundTrip
import Storyline.Proofs.Text.Splitting
import Storyline.Proofs.Command.Display
import Storyline.Proofs.Config.Sanity
import Storyline.Proofs.Dialogue.Choosing
import Storyline.Proofs.Session.Choosing
import Storyline.Proofs.Play.Quiet
import Storyline.Proofs.Play.Turn
import Storyline.Proofs.Play.Ending
import Storyline.Proofs.Dialogue.Timing
import Storyline.Proofs.Session.Closing
import Storyline.Proofs.Store.Clamping
import Storyline.Proofs.Store.Seeding
import Storyline.Proofs.Store.Announcement
import Storyline.Proofs.Session.Store
import Storyline.Proofs.Condition.Splitting
import Storyline.Proofs.Condition.Display
import Storyline.Proofs.Condition.Spelling
import Storyline.Proofs.Command.Effect
import Storyline.Proofs.Binary.Rational
import Storyline.Proofs.Tree.Agreement
import Storyline.Proofs.Session.DisplayTime
import Storyline.Proofs.Dialogue.Granting
import Storyline.Proofs.Session.Items
import Storyline.Proofs.Tree.Naming
import Storyline.Proofs.Schedule.Sweeping
import Storyline.Proofs.Audience.Presence
import Storyline.Proofs.Play.Prompt
