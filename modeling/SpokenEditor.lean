import SpokenEditor.Main
import SpokenEditor.Service.Fixed
import SpokenEditor.Session.Threads
import SpokenEditor.Store.Disk
import SpokenEditor.Proofs.Answer
import SpokenEditor.Proofs.Effects
import SpokenEditor.Proofs.Halves
import SpokenEditor.Proofs.Positions
import SpokenEditor.Proofs.EndOfText
import SpokenEditor.Proofs.Settling
import SpokenEditor.Proofs.Delivery
import SpokenEditor.Proofs.Replay
import SpokenEditor.Proofs.Clamping
import SpokenEditor.Proofs.Distance
import SpokenEditor.Proofs.Scores
import SpokenEditor.Proofs.WakeWords
import SpokenEditor.Proofs.CommandForms
import SpokenEditor.Proofs.LoginNames
import SpokenEditor.Proofs.Credentials
import SpokenEditor.Proofs.Lowering
import SpokenEditor.Proofs.RoundedScores
import SpokenEditor.Proofs.BestMatch
import SpokenEditor.Proofs.Cues
import SpokenEditor.Proofs.Words
import SpokenEditor.Proofs.Phrases
import SpokenEditor.Proofs.WellKept
import SpokenEditor.Proofs.History
import SpokenEditor.Proofs.LetterCase
import SpokenEditor.Proofs.Capitals
import SpokenEditor.Proofs.LatestStatus
import SpokenEditor.Proofs.Failures
import SpokenEditor.Proofs.Schedules
import SpokenEditor.Proofs.Readings
import SpokenEditor.Proofs.Spacing
import SpokenEditor.Proofs.SpelledOut
import SpokenEditor.Proofs.WordByWord
import SpokenEditor.Proofs.TableOrder
import SpokenEditor.Proofs.Payloads
import SpokenEditor.Proofs.Indexing
import SpokenEditor.Proofs.OneWord
import SpokenEditor.Proofs.OneLine
import SpokenEditor.Proofs.InTurn
import SpokenEditor.Proofs.LoginWords
import SpokenEditor.Proofs.ModeChanges
import SpokenEditor.Proofs.NormalForms
import SpokenEditor.Proofs.Slicing
import SpokenEditor.Proofs.LineByLine
