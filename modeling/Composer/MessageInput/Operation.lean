import Composer.MessageInput
set_option autoImplicit false

/-!
# Operations as data

Every operation of the message input as a value, so that a whole run is a list: each operation comes
with what the input sees of the session at that moment. `run` keeps the reactions, `after` the last
state.
-/

namespace Composer

/-- An operation of the message input with its arguments. -/
inductive Operation where
  | changeText (text : String) (cursor : Nat)
  | closeMenu
  | transcribe (speech : String)
  | setContext (context : Option String)
  | paste (clipboard : Clipboard)
  | takeFiles (files : List Attachment)
  | removeFile (index : Nat)
  | removeBadge (id : String)
  | discardPaste
  | savePaste (title : String) (choice : MimeChoice) (description : Option String)
  | submit
  | cancelResponse
  | observeResponding (responding : Bool)
  | insertPrompt (text : String)
  | selectPrompt (group : PromptGroup)
  | submitVariables (values : VariableValues)
  | cancelVariables
  | applyPending (pending : Option PendingPrompt)
  | runReserved (command : ReservedCommand) (transcript : Option String)
  | observeSession (id : Option String)
  | handleSignal (signal : Signal)
  | drainEffects
  deriving Repr

/-- What an operation reports. -/
inductive Reply where
  | done
  | truth (b : Bool)
  | count (n : Nat)
  | pasted (outcome : PasteOutcome)
  | file (f : Option Attachment)
  | text (t : Option String)
  | badge (b : Option Badge)
  | filled (r : Except Fault String)
  /-- Whether a pending prompt was applied, and what is left of it. -/
  | applied (b : Bool) (left : Option PendingPrompt)
  | session (t : SessionTransition)
  | effects (es : List ViewEffect)
  deriving Repr

namespace MessageInput

/-- Performs one operation. -/
def perform (m : MessageInput) (session : Session) : Operation → Reaction Reply
  | .changeText text cursor => { result := .done, input := m.changeText text cursor }
  | .closeMenu => { result := .done, input := m.closeMenu }
  | .transcribe speech => { result := .done, input := m.transcribe speech }
  | .setContext context => { result := .done, input := m.setContext context }
  | .paste clipboard =>
    let (outcome, m) := m.paste session clipboard
    { result := .pasted outcome, input := m }
  | .takeFiles files =>
    let (n, m) := m.takeFiles session files
    { result := .count n, input := m }
  | .removeFile index =>
    let (f, m) := m.removeFile index
    { result := .file f, input := m }
  | .removeBadge id =>
    let (b, m) := m.removeBadge id
    { result := .truth b, input := m }
  | .discardPaste =>
    let (t, m) := m.discardPaste
    { result := .text t, input := m }
  | .savePaste title choice description =>
    let r := m.savePaste session title choice description
    { r with result := .badge r.result }
  | .submit =>
    let r := m.submit session
    { r with result := .truth r.result }
  | .cancelResponse =>
    let r := m.cancelResponse session
    { r with result := .done }
  | .observeResponding responding => { result := .done, input := m.observeResponding responding }
  | .insertPrompt text => { result := .done, input := m.insertPrompt text }
  | .selectPrompt group =>
    let (b, m) := m.selectPrompt group
    { result := .truth b, input := m }
  | .submitVariables values =>
    let (r, m) := m.submitVariables values
    { result := .filled r, input := m }
  | .cancelVariables => { result := .done, input := m.cancelVariables }
  | .applyPending pending =>
    let (b, left, m) := m.applyPending pending
    { result := .applied b left, input := m }
  | .runReserved command transcript =>
    let r := m.runReserved command transcript
    { r with result := .done }
  | .observeSession id =>
    let (t, m) := m.observeSession id
    { result := .session t, input := m }
  | .handleSignal signal =>
    let r := m.handleSignal session signal
    { r with result := .done }
  | .drainEffects =>
    let (es, m) := m.drainEffects
    { result := .effects es, input := m }

/-- The reactions to a sequence of operations, each with its view of the session. -/
def run (m : MessageInput) : List (Operation × Session) → List (Reaction Reply)
  | [] => []
  | (op, session) :: rest =>
    let r := m.perform session op
    r :: r.input.run rest

/-- The state after a sequence of operations. -/
def after (m : MessageInput) (ops : List (Operation × Session)) : MessageInput :=
  ops.foldl (fun m (op, session) => (m.perform session op).input) m

@[simp] theorem after_nil (m : MessageInput) : m.after [] = m := rfl

@[simp] theorem after_cons (m : MessageInput) (op : Operation) (session : Session)
    (ops : List (Operation × Session)) :
    m.after ((op, session) :: ops) = (m.perform session op).input.after ops := rfl

theorem after_append (m : MessageInput) (first second : List (Operation × Session)) :
    m.after (first ++ second) = (m.after first).after second := by
  simp [after]

/-- The states that some run from some start leads to. -/
def Reachable (m : MessageInput) : Prop :=
  ∃ classifier session ops, m = (start classifier session).after ops

end MessageInput
end Composer
