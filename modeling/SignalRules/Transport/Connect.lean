import SignalRules.Files
import SignalRules.Transport.Relay
import SignalRules.Transport.Selector

set_option autoImplicit false

namespace SignalRules

structure StandardInput where
  reads : List SourceRead
  staysOpen : Bool

def StandardInput.feed (input : StandardInput) : ByteFeed :=
  let feed := Relay.feed Selector.stdio.name input.reads
  if input.staysOpen && feed.tail = .closed then { feed with tail := .unfinished } else feed

namespace Selector

def replayFeed (files : Files) (path : String) : Except TransportError ByteFeed :=
  let name := (replay path).name
  match files.resolve path with
  | .error e => .error (.loadFailed ("cannot open replay file " ++ path ++ ": " ++ e.message))
  | .ok .directory => .ok ⟨name, [], .fails FileError.isDirectory.message⟩
  | .ok (.file bytes) => .ok ⟨name, bytes, .closed⟩

def feed (files : Files) (input : StandardInput) : Selector → Except TransportError ByteFeed
  | stdio => .ok input.feed
  | replay path => replayFeed files path

def openedNotes : Selector → List Log.Entry
  | stdio => []
  | replay path => [Log.debug ("Replaying inbound signals from " ++ path)]

def connect (files : Files) (input : StandardInput) (text : String) : Except TransportError ByteFeed × List Log.Entry :=
  match ofText text with
  | .error e => (.error e, [])
  | .ok selector =>
    let notes := [Log.debug ("Creating transport of type: " ++ selector.name)]
    match selector.feed files input with
    | .error e => (.error e, notes)
    | .ok feed => (.ok feed, notes ++ selector.openedNotes ++ [Log.info ("Using " ++ feed.name ++ " transport")])

end Selector
end SignalRules
