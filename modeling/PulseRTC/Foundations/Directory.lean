import PulseRTC.Foundations.GoMap

/-!
# Directories of shared objects

A map from keys to objects that are shared by reference. An object is a set of members; a caller
looks its key up once, keeps the reference and changes the object through it later. An entry is
dropped when its object is empty, and a reference taken before that still names the old object:
only what the directory maps a key to at the moment (`get`) counts as being under that key
(`Hosts`).

Each operation comes with what it keeps: which entries stay (`get_*`), and who stays a member under
a key (`Hosts.*`).
-/

namespace PulseRTC.Foundations

/-- Entries, and the members of every object ever created. References are numbered in the order
of creation, and every entry names one that has been created. -/
structure Directory (κ ν : Type*) [DecidableEq κ] where
  refs : GoMap κ ℕ
  members : ℕ → Finset ν
  next : ℕ
  lt_next : ∀ k ref, refs.lookup k = some ref → ref < next

namespace Directory

variable {κ ν : Type*} [DecidableEq κ]

/-- No entries, and no objects. -/
def empty : Directory κ ν where
  refs := ∅
  members _ := ∅
  next := 0
  lt_next := by simp

variable (d : Directory κ ν)

/-- The object under a key. -/
def get (k : κ) : Option ℕ := d.refs.lookup k

/-- The object under a key, created empty when there is none. -/
def getOrCreate (k : κ) : Directory κ ν × ℕ :=
  match d.refs.lookup k with
  | some ref => (d, ref)
  | none =>
    ({ refs := d.refs.insert k d.next
       members := Function.update d.members d.next ∅
       next := d.next + 1
       lt_next := fun j ref h => by
        rw [GoMap.lookup_insert_eq] at h
        split_ifs at h
        · have heq : d.next = ref := Option.some.inj h
          omega
        · have hlt := d.lt_next j ref h
          omega }, d.next)

/-- The value is a member of the object that the key is mapped to. -/
def Hosts (k : κ) (v : ν) : Prop := ∃ ref ∈ d.get k, v ∈ d.members ref

variable {d} {j k : κ} {v w : ν} {ref ref' : ℕ}

theorem get_getOrCreate_self : (d.getOrCreate k).1.get k = some (d.getOrCreate k).2 := by
  cases h : d.refs.lookup k with
  | some ref | none => simp [getOrCreate, get, h]

theorem get_getOrCreate (h : d.get j = some ref) : (d.getOrCreate k).1.get j = some ref := by
  unfold get at h
  cases hk : d.refs.lookup k with
  | some _ => simp [getOrCreate, get, hk, h]
  | none =>
    have hne : j ≠ k := by
      rintro rfl
      simp [hk] at h
    simp [getOrCreate, get, hk, hne, h]

theorem getOrCreate_of_some (h : d.get k = some ref) : d.getOrCreate k = (d, ref) := by
  unfold get at h
  simp [getOrCreate, h]

/-- A new object has a new reference, so the members under other keys are as they were. -/
theorem members_getOrCreate (h : d.get j = some ref) :
    (d.getOrCreate k).1.members ref = d.members ref := by
  have hlt : ref < d.next := d.lt_next j ref h
  cases hk : d.refs.lookup k with
  | some _ => rw [getOrCreate_of_some hk]
  | none => simp [getOrCreate, hk, Function.update_of_ne hlt.ne]

theorem Hosts.getOrCreate (h : d.Hosts j w) : (d.getOrCreate k).1.Hosts j w := by
  obtain ⟨ref, href, hw⟩ := h
  refine ⟨ref, get_getOrCreate href, ?_⟩
  rwa [members_getOrCreate href]

/-! ## Adding and removing -/

variable [DecidableEq ν]

instance (k : κ) (v : ν) : Decidable (d.Hosts k v) := inferInstanceAs (Decidable (∃ _, _))

/-- A member is added to an object. -/
def add (d : Directory κ ν) (ref : ℕ) (v : ν) : Directory κ ν :=
  { d with members := Function.update d.members ref (insert v (d.members ref)) }

/-- A member is removed from an object. -/
def remove (d : Directory κ ν) (ref : ℕ) (v : ν) : Directory κ ν :=
  { d with members := Function.update d.members ref ((d.members ref).erase v) }

theorem hosts_add (h : d.get k = some ref) : (d.add ref v).Hosts k v :=
  ⟨ref, h, by simp [add]⟩

theorem Hosts.add (h : d.Hosts j w) : (d.add ref v).Hosts j w := by
  obtain ⟨ref', href, hw⟩ := h
  refine ⟨ref', href, ?_⟩
  by_cases heq : ref' = ref
  · subst heq
    simp [Directory.add, hw]
  · simpa [Directory.add, heq] using hw

theorem mem_remove (hw : w ∈ d.members ref') (hne : w ≠ v) :
    w ∈ (d.remove ref v).members ref' := by
  by_cases heq : ref' = ref
  · subst heq
    simp [remove, hw, hne]
  · simpa [remove, heq] using hw

theorem Hosts.remove (h : d.Hosts j w) (hne : w ≠ v) : (d.remove ref v).Hosts j w := by
  obtain ⟨ref', href, hw⟩ := h
  exact ⟨ref', href, mem_remove hw hne⟩

/-! ## Dropping -/

/-- The entry of a key is dropped when its object has no members. -/
def dropIfEmpty (d : Directory κ ν) (k : κ) : Directory κ ν :=
  match d.refs.lookup k with
  | none => d
  | some ref =>
    if d.members ref = ∅ then
      { d with
        refs := d.refs.erase k
        lt_next := fun j ref h => by
          rw [GoMap.lookup_erase_eq] at h
          split_ifs at h
          exact d.lt_next j ref h }
    else d

/-- A member is removed from the object under a key, and the entry dropped when that was the last
one. -/
def removeFrom (d : Directory κ ν) (k : κ) (v : ν) : Directory κ ν :=
  match d.refs.lookup k with
  | none => d
  | some ref => (d.remove ref v).dropIfEmpty k

theorem dropIfEmpty_members : (d.dropIfEmpty k).members = d.members := by
  unfold dropIfEmpty
  split
  · rfl
  · split_ifs <;> rfl

/-- An entry whose object has a member stays. -/
theorem get_dropIfEmpty (h : d.get j = some ref) (hmem : j = k → (d.members ref).Nonempty) :
    (d.dropIfEmpty k).get j = some ref := by
  unfold dropIfEmpty
  split
  · exact h
  · next ref' hk =>
    split_ifs with hempty
    · have hne : j ≠ k := by
        intro heq
        subst heq
        obtain rfl : ref = ref' := Option.mem_unique h hk
        exact (hmem rfl).ne_empty hempty
      simpa [get, GoMap.lookup_erase_eq, hne] using h
    · exact h

theorem Hosts.dropIfEmpty (h : d.Hosts j w) : (d.dropIfEmpty k).Hosts j w := by
  obtain ⟨ref, href, hw⟩ := h
  refine ⟨ref, get_dropIfEmpty href fun _ => ⟨w, hw⟩, ?_⟩
  rw [dropIfEmpty_members]
  exact hw

theorem get_removeFrom (h : d.get j = some ref)
    (hmem : j = k → ∃ member ∈ d.members ref, member ≠ v) :
    (d.removeFrom k v).get j = some ref := by
  unfold removeFrom
  split
  · exact h
  · refine get_dropIfEmpty h fun heq => ?_
    obtain ⟨member, hin, hne⟩ := hmem heq
    exact ⟨member, mem_remove hin hne⟩

theorem Hosts.removeFrom (h : d.Hosts j w) (hne : w ≠ v) : (d.removeFrom k v).Hosts j w := by
  unfold Directory.removeFrom
  split
  · exact h
  · exact (h.remove hne).dropIfEmpty

end Directory

end PulseRTC.Foundations
