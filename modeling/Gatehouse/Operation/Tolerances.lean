import Gatehouse.Operation
import Gatehouse.Session.Taints

namespace Gatehouse

@[ext]
structure Tolerances where
  of : Operation → Taints

inductive ToleranceError
  | missing (o : Operation)
  | duplicate (o : Operation)
  deriving DecidableEq, Repr

def ToleranceError.message : ToleranceError → String
  | .missing o => s!"no taint tolerance configured for {o.path}"
  | .duplicate o => s!"taint tolerance configured twice for {o.path}"

namespace Tolerances

abbrev Entries := List (Operation × List String)

abbrev Slots := Operation → Option Taints

def Slots.put (slots : Slots) (o : Operation) (taints : Taints) : Slots :=
  fun p ↦ if p = o then some taints else slots p

/-- Takes the entries one after the other, up to one whose operation has had its entry. -/
def fill (slots : Slots) : Entries → Except ToleranceError Slots
  | [] => .ok slots
  | (o, names) :: rest =>
    match slots o with
    | some _ => .error (.duplicate o)
    | none => fill (slots.put o (.ofList names)) rest

def ofEntries (entries : Entries) : Except ToleranceError Tolerances :=
  match fill (fun _ ↦ none) entries with
  | .error e => .error e
  | .ok slots =>
    match Operation.all.find? fun o ↦ (slots o).isNone with
    | some o => .error (.missing o)
    | none => .ok ⟨fun o ↦ (slots o).getD .empty⟩

def standard : Tolerances where
  of
    | .healthCheck | .listOperations | .whoAmI | .authorizeHttp | .startLogin =>
      .ofList [Taints.anonymous]
    | .editUser | .generateEnrollmentLink => .empty
    | .startEnrollment | .finishEnrollment => .ofList [Taints.enrollment]
    | .finishLogin => .ofList [Taints.startLogin]

/-- Nothing if the operation tolerates all taints, and otherwise those that it does not. -/
def check (t : Tolerances) (o : Operation) (taints : Taints) : Except (List String) Unit :=
  taints.check (t.of o)

end Tolerances

end Gatehouse
