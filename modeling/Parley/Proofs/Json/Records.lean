import Mathlib.Data.List.Nodup
import Parley.Proofs.Json.Printed

/-!
# Records, lists and options read back

What a record is made of is found under its names again (`Fields.Holds`), so a decoder reads a
record back if it reads each of its members back.
-/

namespace Parley.Json

variable {α β : Type}

@[simp] lemma plain_text (s : String) : (text s).plain := rfl

@[simp] lemma plain_bool (b : Bool) : (bool b).plain := rfl

lemma plainItems_iff {xs : List Json} : plainItems xs ↔ ∀ x ∈ xs, x.plain := by
  induction xs with
  | nil => simp [plainItems]
  | cons x xs ih => simp [plainItems, ih]

lemma plain_list {f : α → Json} {as : List α} (h : ∀ a ∈ as, (f a).plain) :
    (list (as.map f)).plain := by
  rw [plain, plainItems_iff]
  exact List.forall_mem_map.2 h

lemma plain_object {ms : List (String × Json)} (h : ∀ m ∈ ms, m.2.plain) :
    (object ms).plain := by
  rw [object, plain]
  induction ms with
  | nil => rfl
  | cons m ms ih =>
    obtain ⟨hm, hms⟩ := List.forall_mem_cons.1 h
    rw [List.map_cons, plainMembers, Option.isSome_some, Bool.true_and, hm, Bool.true_and]
    exact ih hms

lemma plain_ofOption {f : α → Json} (h : ∀ a, (f a).plain) (o : Option α) :
    (ofOption f o).plain := by
  cases o with
  | none => rfl
  | some a => exact h a

lemma asList_map {d : Decoder β} {f : α → Json} {g : α → β} {as : List α}
    (h : ∀ a ∈ as, d (f a) = .ok (g a)) : asList d (.list (as.map f)) = .ok (as.map g) := by
  rw [asList, List.mapM_map]
  exact mapM_eq_pure h

lemma asList_self {d : Decoder α} {f : α → Json} {as : List α}
    (h : ∀ a ∈ as, d (f a) = .ok a) : asList d (.list (as.map f)) = .ok as :=
  (asList_map (g := id) h).trans (congrArg Except.ok as.map_id)

lemma asOption_ofOption {d : Decoder α} {f : α → Json} (hnull : ∀ a, f a ≠ .null)
    (h : ∀ a, d (f a) = .ok a) (o : Option α) : asOption d (ofOption f o) = .ok o := by
  cases o with
  | none => rfl
  | some a =>
    rw [ofOption, asOption, h]
    · rfl
    · exact hnull a

/-- Elements with keys of their own are all kept when each replaces those with its key. -/
lemma foldl_replace {key : α → Id} {as kept : List α} (h : ((kept ++ as).map key).Nodup) :
    as.foldl (fun kept a => kept.filter (key · ≠ key a) ++ [a]) kept = kept ++ as := by
  induction as generalizing kept with
  | nil => exact (List.append_nil kept).symm
  | cons a as ih =>
    have hnew : ∀ b ∈ kept, key b ≠ key a := by
      rw [List.map_append, List.nodup_append] at h
      exact fun b hb => h.2.2 _ (List.mem_map_of_mem hb) _ (List.mem_map_of_mem (.head _))
    have hkept : kept.filter (key · ≠ key a) = kept :=
      List.filter_eq_self.2 fun b hb => decide_eq_true (hnew b hb)
    rw [List.append_cons] at h
    rw [List.foldl_cons, hkept, ih h, ← List.append_cons]

/-- The fields of a record are its members. -/
structure Fields.Holds (f : Fields) (ms : List (String × Json)) : Prop where
  sound : f.flaw = none
  found : ∀ name x, (name, x) ∈ ms → ∃ i, f.found.lookup name = some (i, x)

lemma Fields.ofMembers_holds {names : List String} {ms : List (String × Json)}
    {found : List (String × Nat × Json)} (position : Nat) (hnames : ∀ m ∈ ms, m.1 ∈ names)
    (hnew : ∀ m ∈ ms, found.lookup m.1 = none) (hnodup : (ms.map (·.1)).Nodup) :
    (ofMembers names found position (ms.map fun (name, x) => (some name, x))).Holds ms ∧
      ∀ name i x, found.lookup name = some (i, x) →
        (ofMembers names found position
          (ms.map fun (name, x) => (some name, x))).found.lookup name = some (i, x) := by
  induction ms generalizing found position with
  | nil => exact ⟨⟨rfl, fun _ _ h => by cases h⟩, fun _ _ _ h => h⟩
  | cons m ms ih =>
    obtain ⟨name, x⟩ := m
    obtain ⟨hname, hnames⟩ := List.forall_mem_cons.1 hnames
    obtain ⟨hfresh, hnew⟩ := List.forall_mem_cons.1 hnew
    obtain ⟨hnot, hnodup⟩ := List.nodup_cons.1 hnodup
    have hkept : ∀ other, other ≠ name →
        ((name, position, x) :: found).lookup other = found.lookup other := by
      intro other hne
      rw [List.lookup_cons, beq_false_of_ne hne]
    have hnew' : ∀ m ∈ ms, ((name, position, x) :: found).lookup m.1 = none := by
      intro m hm
      have hne : m.1 ≠ name := fun heq => hnot (List.mem_map.2 ⟨m, hm, heq⟩)
      rw [hkept _ hne, hnew m hm]
    obtain ⟨⟨hsound, hfound⟩, hbefore⟩ := ih (position + 1) hnames hnew' hnodup
    have hstep : ofMembers names found position (((name, x) :: ms).map fun (name, x) =>
        (some name, x)) = ofMembers names ((name, position, x) :: found) (position + 1)
          (ms.map fun (name, x) => (some name, x)) := by
      rw [List.map_cons, ofMembers, if_pos (List.contains_iff_mem.2 hname), hfresh]
      rfl
    rw [hstep]
    refine ⟨⟨hsound, fun other y hy => ?_⟩, fun other i y hy => ?_⟩
    · obtain heq | hy := List.mem_cons.1 hy
      · cases heq
        exact ⟨position, hbefore name position x List.lookup_cons_self⟩
      · exact hfound other y hy
    · have hne : other ≠ name := by
        rintro rfl
        rw [hfresh] at hy
        cases hy
      exact hbefore other i y (by rw [hkept _ hne, hy])

namespace Fields.Holds

variable {f : Fields} {ms : List (String × Json)} {name : String} {x : Json} {d : Decoder α} {a : α}

lemma value? (h : f.Holds ms) (hmem : (name, x) ∈ ms) (hd : d x = .ok a) :
    f.value? name d = some (.ok a) := by
  obtain ⟨i, hi⟩ := h.found name x hmem
  rw [Fields.value?, hi, Option.map_some]
  dsimp only
  rw [hd]
  rfl

lemma required (h : f.Holds ms) (hmem : (name, x) ∈ ms) (hd : d x = .ok a) :
    f.required name d = .ok a := by
  rw [Fields.required, h.value? hmem hd, Option.getD_some]

lemma withDefault (h : f.Holds ms) (hmem : (name, x) ∈ ms) (hd : d x = .ok a) (default : α) :
    f.withDefault name d default = .ok a := by
  rw [Fields.withDefault, h.value? hmem hd, Option.getD_some]

end Fields.Holds

theorem asRecord_object {names : List String} {ms : List (String × Json)}
    {build : Fields → Checked α} {a : α} (hnames : ms.map (·.1) = names) (hnodup : names.Nodup)
    (h : ∀ f : Fields, f.Holds ms → build f = .ok a) :
    asRecord names build (.object ms) = .ok a := by
  subst hnames
  have hholds : (Fields.ofMembers (ms.map (·.1)) [] 0
      (ms.map fun (name, x) => (some name, x))).Holds ms :=
    (Fields.ofMembers_holds 0 (fun m hm => List.mem_map_of_mem hm) (fun _ _ => rfl) hnodup).1
  simp only [asRecord, object, Fields.finish, hholds.sound, h _ hholds]
  rfl

end Parley.Json
