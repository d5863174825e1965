import Gamebook.Main
import Gamebook.Proofs.Channel
import Gamebook.Proofs.Interleaving
import Gamebook.Proofs.Navigation.Overlap
import Gamebook.Proofs.App.Delivery
import Gamebook.Proofs.Storybook.Visits
import Gamebook.Proofs.App.Spot
import Gamebook.Proofs.Story.Markup
import Gamebook.Proofs.Story.Encodings
import Gamebook.Proofs.App.Answers
import Gamebook.Proofs.Session.Calls
import Gamebook.Proofs.Session.Walker
import Gamebook.Proofs.App.Choices
import Gamebook.Proofs.Session.Refinement
import Gamebook.Proofs.App.Starts
import Gamebook.Proofs.Navigation.Openings
import Gamebook.Proofs.App.FirstScreen
import Gamebook.Proofs.App.Late
import Gamebook.Proofs.App.Broadcasts
import Gamebook.Proofs.Session.Batch
import Gamebook.Proofs.App.Stores
import Gamebook.Proofs.App.Saves
import Gamebook.Proofs.Outside.Stores
import Gamebook.Proofs.App.Narratives
import Gamebook.Proofs.App.Links
import Gamebook.Proofs.Story.Damage
import Gamebook.Proofs.Player.Words
import Gamebook.Proofs.App.Offsets
import Gamebook.Proofs.Player.Views
import Gamebook.Proofs.Catalog.Lookups
import Gamebook.Proofs.Storybook.Unnamed
import Gamebook.Proofs.Outside.Containment
import Gamebook.Proofs.App.Reads
import Gamebook.Proofs.Navigation.Sheets
import Gamebook.Proofs.Story.Paragraphs
