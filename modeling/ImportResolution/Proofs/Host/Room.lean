import ImportResolution.Host
import ImportResolution.Proofs.FileTree.Steps
import ImportResolution.Proofs.Json.Nesting
import ImportResolution.Proofs.Outcome

/-! Reading with the room that there is. A text has the value that its notation gives it, if there
is room for it; where there is none, the reading breaks off whatever follows. In a tree of short
files there is room for each of them. -/
namespace ImportResolution

namespace Room

variable {room : Room} {text : Text} {value : Json} {descent : Descent}

theorem parse_eq_ok : room.parse text = .ok value ↔
    Json.overflow? room.containers text = none ∧ Json.parse text = .ok value := by
  unfold parse
  cases Json.overflow? room.containers text with
  | none => simp [Except.mapError_eq_ok]
  | some container => simp

theorem parseRelaxed_eq_ok : room.parseRelaxed text = .ok value ↔
    room.outgrown text = false ∧ Relaxed.parse text = .ok value := by
  unfold parseRelaxed
  cases room.outgrown text <;> simp [Except.mapError_eq_ok]

/-- Reading breaks off for want of room exactly at a container inside too many others. -/
theorem parse_eq_exhausted : room.parse text = .error (.exhausted descent) ↔
    ∃ kind, Json.overflow? room.containers text = some kind ∧ descent = .container kind := by
  unfold parse
  cases Json.overflow? room.containers text with
  | none => cases Json.parse text <;> simp [Except.mapError_ok, Except.mapError_error]
  | some kind => simp [eq_comm]

end Room

namespace Host

variable {h : Host}

/-- Every file that holds a text is so short that there is room for it however it is nested. -/
def Spacious (h : Host) : Prop :=
  ∀ place content text, (place, Node.file content) ∈ h.tree.nodes →
    contentText content = .ok text → text.length ≤ h.room.containers

theorem spacious_iff (h : Host) :
    (h.tree.nodes.all fun
      | (_, .file content) =>
        match contentText content with
        | .ok text => decide (text.length ≤ h.room.containers)
        | .error _ => true
      | _ => true) = true ↔ h.Spacious := by
  rw [List.all_eq_true]
  constructor
  · intro all place content text member decoded
    simpa [decoded] using all _ member
  · rintro spacious ⟨place, node⟩ member
    cases node with
    | file content =>
      simp only
      split
      · rename_i text decoded
        exact decide_eq_true (spacious place content text member decoded)
      · rfl
    | _ => rfl

instance (h : Host) : Decidable h.Spacious := decidable_of_iff _ (spacious_iff h)

/-- There is always room to read what a path of a spacious host names. -/
theorem readJson_of_spacious (spacious : h.Spacious) (path : Text) (descent : Descent) :
    h.readJson path ≠ .error (.exhausted descent) := by
  unfold readJson readText
  cases found : h.lookup true path with
  | error fault => cases fault <;> nofun
  | ok there =>
    obtain ⟨place, node⟩ := there
    cases node with
    | file content =>
      have held := FileTree.node?_of_lookup found
      have below : place ≠ [] := by
        rintro rfl
        cases held
      simp only
      cases decoded : contentText content with
      | error fault => nofun
      | ok text =>
        simp only [Except.mapError_ok, ne_eq, Room.parse_eq_exhausted]
        have fits := Json.overflow?_of_length
          (spacious place content text (FileTree.mem_of_node? held below) decoded)
        simp [fits]
    | _ => nofun

end Host
end ImportResolution
