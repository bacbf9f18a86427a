import BalancerClient.Catalog.Functions
import BalancerClient.Exchange.Reply
import BalancerClient.Session.Call

/-!
# Stubs

A client hands its calls to a stub: to the network, or to a stand-in for it.  A stub need not
provide for every operation; a call that it does not provide for is a mistake of the program,
not a failed call.

## Main definitions

* `Stub` - what answers calls; `Stub.perform` hands it a call, `Stub.performAll` several.
* `Stub.through` - a stub whose functions call those of another.
* `Unprovided` - the mistake, with its message.
* `Recorder` - a stand-in that records calls and answers from a script.
-/

namespace BalancerClient

/-- What the caller of an operation gets. -/
abbrev Answer (op : Operation) : Type := Except Error (Response (Message op.response))

/-- What answers calls, with a state. -/
structure Stub (σ : Type) where
  /-- What the stub does with a call, if it provides for the operation. -/
  handle? : (call : Call) → Option (σ → Answer call.operation × σ)

/-- A call of an operation that the stub does not provide for. -/
structure Unprovided where
  operation : Operation
  deriving DecidableEq, Repr

/-- The mistake in words. -/
def Unprovided.message (_ : Unprovided) : String :=
  "not implemented: the stub traits provide default implementations of each operation, " ++
    "so services can gain new operations without breaking existing mocks. The client " ++
    "libraries override all the methods, so this panic only appears in test code that " ++
    "mocks the stub. Verify your test mocks every operation it calls."

/-- Hands a call to a stub. -/
def Stub.perform {σ : Type} (stub : Stub σ) (call : Call) (s : σ) :
    Except Unprovided (Answer call.operation × σ) :=
  match stub.handle? call with
  | some handle => .ok (handle s)
  | none => .error ⟨call.operation⟩

/-- A call with its answer, and the state of the stub before and after. -/
structure Performed (σ : Type) where
  call : Call
  answer : Answer call.operation
  before : σ
  after : σ

/-- Hands calls to a stub, one after the other. -/
def Stub.performAll {σ : Type} (stub : Stub σ) (s : σ) :
    List Call → Except Unprovided (List (Performed σ))
  | [] => .ok []
  | call :: rest =>
    match stub.perform call s with
    | .error mistake => .error mistake
    | .ok (answer, after) => (stub.performAll after rest).map (⟨call, answer, s, after⟩ :: ·)

/-- The stub that provides for no operation. -/
def Stub.empty : Stub Unit := ⟨fun _ => none⟩

/-! ## Stubs in front of others -/

section Layers

variable {σ : Type}

/-- Calls the function of a stub that has a name with the types of an operation; only the
function of this operation has these types. -/
def Stub.invoke? (stub : Stub σ) (name : String) (op : Operation)
    (request : Message op.request) (options : RequestOptions) : Option (σ → Answer op × σ) :=
  if name = op.label then stub.handle? ⟨op, request, options⟩ else none

@[simp] theorem Stub.invoke?_label (stub : Stub σ) (call : Call) :
    stub.invoke? call.operation.label call.operation call.request call.options =
      stub.handle? call := if_pos rfl

/-- A stub whose functions call those of another as a layer says, with the same request and
options. -/
def Stub.through (stub : Stub σ) (layer : Layer) : Stub σ where
  handle? call := do
    let name ← layer.lookup call.operation.label
    stub.invoke? name call.operation call.request call.options

/-- A layer whose functions call their own changes nothing. -/
theorem Stub.through_eq {layer : Layer}
    (h : ∀ op : Operation, layer.lookup op.label = some op.label) (stub : Stub σ) :
    stub.through layer = stub := by
  have hhandle : (stub.through layer).handle? = stub.handle? := by
    funext call
    simp only [through, h, Option.bind_eq_bind, Option.bind_some, invoke?_label]
  exact congrArg Stub.mk hhandle

end Layers

/-! ## Recording stubs -/

/-- An entry of the script of a recorder. -/
inductive Scripted where
  | reply (parts : Parts) (payload : Json)
  | failure (error : Error)

/-- The answer of an entry. -/
def Scripted.answer (op : Operation) : Scripted → Answer op
  | reply parts payload => op.response.reader.materialize parts payload
  | failure error => .error error

/-- The state of a stub that records calls: the answers to come, and the calls it has had. -/
structure Recorder where
  script : List Scripted := []
  received : List Call := []

namespace Recorder

/-- Records a call and answers it with the next entry, or with an empty response when there is
none. -/
def answer (call : Call) (r : Recorder) : Answer call.operation × Recorder :=
  let answer : Answer call.operation :=
    match r.script with
    | [] => .ok (.ofBody call.operation.response.unset)
    | entry :: _ => entry.answer call.operation
  (answer, { script := r.script.tail, received := r.received ++ [call] })

/-- The stub that records every call. -/
def stub : Stub Recorder := ⟨fun call => some (answer call)⟩

end Recorder

end BalancerClient
