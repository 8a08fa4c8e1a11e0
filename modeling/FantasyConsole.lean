import FantasyConsole.Main
import FantasyConsole.Proofs.Calls
import FantasyConsole.Proofs.Sparing
import FantasyConsole.Proofs.Marks
import FantasyConsole.Proofs.Scene
import FantasyConsole.Proofs.Rows
import FantasyConsole.Proofs.Course
import FantasyConsole.Proofs.Composition
import FantasyConsole.Proofs.Skipping
import FantasyConsole.Proofs.Protocol
import FantasyConsole.Proofs.Attachment
import FantasyConsole.Proofs.Visits
import FantasyConsole.Proofs.Returning
import FantasyConsole.Proofs.Effects
import FantasyConsole.Proofs.Rotation
import FantasyConsole.Proofs.Limits
import FantasyConsole.Proofs.Transfers
import FantasyConsole.Proofs.Relocation
import FantasyConsole.Proofs.Booting
import FantasyConsole.Proofs.Lifo
import FantasyConsole.Proofs.Keeping
import FantasyConsole.Proofs.Sending
import FantasyConsole.Proofs.Footprint
import FantasyConsole.Proofs.PageStream
import FantasyConsole.Proofs.SpriteList
import FantasyConsole.Proofs.RowMembers
import FantasyConsole.Proofs.SpritePictures
import FantasyConsole.Proofs.ScrolledPlanes
import FantasyConsole.Proofs.SpriteOrder
import FantasyConsole.Proofs.TextCover
import FantasyConsole.Proofs.Redrawing
import FantasyConsole.Proofs.StrictAccess
import FantasyConsole.Proofs.StrictVideo
import FantasyConsole.Proofs.StoreLoad
import FantasyConsole.Proofs.Subroutines
import FantasyConsole.Proofs.Mirror
import FantasyConsole.Proofs.PointerPorts
import FantasyConsole.Proofs.KeyEvents
import FantasyConsole.Proofs.Detection
import FantasyConsole.Proofs.DumpLines
