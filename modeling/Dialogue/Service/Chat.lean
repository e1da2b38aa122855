import Dialogue.Service.Basic

/-!
# A chat that keeps the state

The caller of a service stores the state of each turn that has one, counts the messages, and
keeps the counts and records of the service.

* `Chat`: what the caller keeps;
* `Call`: one call of the service, with what is to be replaced before it;
* `Chat.step`: one call, and what is kept after it;
* `Chat.run`: a list of calls, with what is kept after each.
-/

namespace Dialogue

/-- What the caller of a service keeps. -/
structure Chat where
  stored : Stored
  messageCount : Int
  tally : Tally
  unread : List Record

/-- One call of a service. A stored state or a count given here replaces the one that is kept;
a `parsed` call reads its document beforehand, a `typed` one the stored state, and the call
fails if what is read so cannot be read. Either way its document is read once, and may be nested
`depth` deep. -/
structure Call where
  document : Option Document
  parsed : Bool
  stored : Option Stored
  messageCount : Option Int
  message : Option String
  trigger : Option String
  typed : Bool
  depth : Nat := Json.usualDepth

/-- The document of a call, read beforehand if that is asked for. Then there must be one. -/
def Call.prepared (call : Call) : Except Failure (Option Document) :=
  if call.parsed then
    match Flow.ofDocument (call.document.getD (.value .null)) call.depth with
    | .ok f => .ok (some (.flow f))
    | .error fault => .error (.document fault)
  else .ok call.document

/-- A stored state, read beforehand. Then there must be one. -/
def Stored.typed? : Stored → Except Failure Stored
  | .nothing => .state <$> Position.ofChecked .state (State.read .null)
  | .json j => .state <$> Position.ofChecked .state (State.read j)
  | .state s => .ok (.state s)

namespace Chat

/-- A chat with a new service. -/
def initial (stored : Stored) : Chat := ⟨stored, 0, .empty, [Service.ready]⟩

/-- The state that is stored after a turn. -/
def storedAfter (stored : Stored) : Except Failure Turn → Stored
  | .ok turn =>
    match turn.state with
    | some state => .state state
    | none => stored
  | .error _ => stored

/-- What the service makes of a call, when `stored` and `count` are kept. -/
def handling (s : Service) (stored : Stored) (count : Int) (call : Call) : Handling :=
  match call.prepared, if call.typed then stored.typed? else .ok stored with
  | .ok document, .ok stored =>
    s.handle document stored call.message call.trigger count call.depth
  | .ok _, .error failure => ⟨.error failure, [], [], []⟩
  | .error failure, _ => ⟨.error failure, [], [], []⟩

/-- One call: what comes of it, with the records since the call before, and what is kept after
it. -/
def step (s : Service) (c : Chat) (call : Call) : Handling × Chat :=
  let stored := call.stored.getD c.stored
  let count := call.messageCount.getD c.messageCount
  let h := handling s stored count call
  (⟨h.outcome, h.counters, c.unread ++ h.records, h.events⟩,
    ⟨storedAfter stored h.outcome, count + 1, Tally.raise c.tally h.counters, []⟩)

/-- A list of calls: what comes of each, and what is kept after it. -/
def run (s : Service) (c : Chat) : List Call → List (Handling × Chat)
  | [] => []
  | call :: r =>
    let x := step s c call
    x :: run s x.2 r

end Chat

end Dialogue
