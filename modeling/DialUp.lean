import DialUp.Audio.Playback
import DialUp.Line.Socket
import DialUp.Main
import DialUp.Proofs.Bridge.Lifecycle
import DialUp.Proofs.Session.Chunking
import DialUp.Proofs.Session.Discarded
import DialUp.Proofs.Session.Forwarding
import DialUp.Proofs.Session.Representation
import DialUp.Proofs.Command
import DialUp.Proofs.Session.Undelivered
import DialUp.Proofs.Session.Lasting
import DialUp.Proofs.Session.Closing
import DialUp.Proofs.Session.Ending
import DialUp.Proofs.Configuration.WellFormed
import DialUp.Proofs.Phonebook
import DialUp.Proofs.Session.Dialable
import DialUp.Proofs.Session.Echo
import DialUp.Proofs.Session.Setup
import DialUp.Proofs.Session.Escape
import DialUp.Proofs.Document.Value
import DialUp.Proofs.Numeral
import DialUp.Proofs.Configuration.Refusal
import DialUp.Proofs.Configuration.Settings
import DialUp.Proofs.Configuration.Loading
import DialUp.Proofs.Audio.Cancelled
import DialUp.Proofs.Server.Reception
import DialUp.Proofs.Server.Sessions
import DialUp.Proofs.Session.Holding
import DialUp.Proofs.Session.LineEnds
import DialUp.Proofs.Session.Screen
import DialUp.Proofs.Session.DialSequence
import DialUp.Proofs.DialTones
import DialUp.Proofs.Command.Table
import DialUp.Proofs.Command.Number
import DialUp.Proofs.Command.Reply
import DialUp.Proofs.Line.Reads
import DialUp.Proofs.Line.Socket
