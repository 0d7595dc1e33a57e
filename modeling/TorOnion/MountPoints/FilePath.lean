import TorOnion.Library.CString
import TorOnion.Library.SortedMap

/-!
# File paths

`base::FilePath` on POSIX, which the mount points of `external_m.cpp` are keyed by.

A path is its string.  Equality and order are those of the strings, byte by byte, and
`NormalizePathSeparators` is the identity; `components` drops the empty components that
repeated separators make, and an absolute path starts with the component `/`.  What else the
mount points call is taken with the facts they rely on: `FilePathOps` bundles
`StripTrailingSeparators` and `ReferencesParent` with the laws of the former, and `posixOps`
are the functions of the library.

Strings and components order paths differently.  They meet in `prefix_of_between`: what lies
between a string and one of its extensions extends it, too.
-/

namespace TorOnion

/-- The separator `/`. -/
def sep : UInt8 := 47

/-- A path: its string. -/
@[ext]
structure FilePath where
  value : List UInt8
  deriving DecidableEq

namespace FilePath

/-- `operator<`: the order of the strings, byte by byte. -/
instance : LinearOrder FilePath :=
  LinearOrder.lift' (fun p => p.value.map UInt8.toNat) fun _ _ h =>
    FilePath.ext (List.map_injective_iff.mpr (fun _ _ => uint8_ext) h)

/-- `empty`. -/
def isEmpty (p : FilePath) : Bool := p.value.isEmpty

/-- `IsAbsolute`. -/
def isAbsolute (p : FilePath) : Bool := p.value.head? == some sep

/-- The non-empty names between the separators of a string. -/
def names (s : List UInt8) : List (List UInt8) := (s.splitOn sep).filter fun c => c ≠ []

/-- `GetComponents`: the root of an absolute path, then the names. -/
def components (p : FilePath) : List (List UInt8) :=
  (if p.isAbsolute then [[sep]] else []) ++ names p.value

/-- `IsParent`: strictly fewer components, which the child starts with. -/
def isParent (p child : FilePath) : Bool :=
  decide (p.components ≠ [] ∧ p.components.length < child.components.length ∧
    p.components <+: child.components)

end FilePath

/-! ## The library functions -/

/-- `StripTrailingSeparators`, with its laws, and `ReferencesParent`.  Stripping removes
nothing but separators at the end, leaves no path empty and no separator at the end other than
a root's, and has nothing left to do when it is done. -/
structure FilePathOps where
  stripTrailingSeparators : FilePath → FilePath
  referencesParent : FilePath → Bool
  strip_append : ∀ p, ∃ k, p.value =
    (stripTrailingSeparators p).value ++ List.replicate k sep
  strip_ne_nil : ∀ p, p.value ≠ [] → (stripTrailingSeparators p).value ≠ []
  strip_root : ∀ p, (stripTrailingSeparators p).value.getLast? = some sep →
    ∀ b ∈ (stripTrailingSeparators p).value, b = sep
  strip_strip : ∀ p,
    stripTrailingSeparators (stripTrailingSeparators p) = stripTrailingSeparators p

/-- Trailing separators are removed, but a path of separators is a root: `//` stays, and any
other number of separators leaves one. -/
def posixStrip (s : List UInt8) : List UInt8 :=
  if ∀ b ∈ s, b = sep then (if s.length = 2 then s else s.take 1)
  else s.rdropWhile (· == sep)

lemma exists_rdropWhile_append (s : List UInt8) :
    ∃ k, s = s.rdropWhile (· == sep) ++ List.replicate k sep := by
  induction s using List.reverseRecOn with
  | nil => exact ⟨0, rfl⟩
  | append_singleton s b ih =>
      by_cases hb : b = sep
      · obtain ⟨k, hk⟩ := ih
        refine ⟨k + 1, ?_⟩
        rw [List.rdropWhile_concat_pos _ _ _ (by simpa using hb), List.replicate_succ',
          ← List.append_assoc, ← hk, hb]
      · exact ⟨0, by rw [List.rdropWhile_concat_neg _ _ _ (by simpa using hb)]; simp⟩

lemma posixStrip_of_root {s : List UInt8} (h : ∀ b ∈ s, b = sep) :
    posixStrip s = if s.length = 2 then s else s.take 1 := if_pos h

lemma posixStrip_of_not_root {s : List UInt8} (h : ¬ ∀ b ∈ s, b = sep) :
    posixStrip s = s.rdropWhile (· == sep) := if_neg h

/-- What is left of a path that is not a root does not end in a separator. -/
lemma getLast?_posixStrip {s : List UInt8} (h : ¬ ∀ b ∈ s, b = sep) :
    ∃ b, (posixStrip s).getLast? = some b ∧ b ≠ sep := by
  have hne : s.rdropWhile (· == sep) ≠ [] := by
    rw [ne_eq, List.rdropWhile_eq_nil_iff]
    simpa using h
  refine ⟨_, ?_, by simpa using List.rdropWhile_last_not _ s hne⟩
  rw [posixStrip_of_not_root h, List.getLast?_eq_some_getLast hne]

/-- The library functions.  A path references its parent through a component of dots and blanks
in which two dots follow each other. -/
def posixOps : FilePathOps where
  stripTrailingSeparators p := ⟨posixStrip p.value⟩
  referencesParent p := p.components.any fun c =>
    c.all (fun b => b ∈ ascii ". \n\r\t") && decide (ascii ".." <:+: c)
  strip_append p := by
    by_cases h : ∀ b ∈ p.value, b = sep
    · rw [posixStrip_of_root h]
      split
      · exact ⟨0, by simp⟩
      · refine ⟨(p.value.drop 1).length, ?_⟩
        conv_lhs => rw [← List.take_append_drop 1 p.value]
        congr 1
        exact List.eq_replicate_iff.mpr ⟨rfl, fun b hb => h b (List.mem_of_mem_drop hb)⟩
    · rw [posixStrip_of_not_root h]
      exact exists_rdropWhile_append _
  strip_ne_nil p hp := by
    by_cases h : ∀ b ∈ p.value, b = sep
    · rw [posixStrip_of_root h]
      split
      · exact hp
      · simpa using hp
    · obtain ⟨b, hb, -⟩ := getLast?_posixStrip h
      rintro (hnil : posixStrip p.value = [])
      rw [hnil] at hb
      cases hb
  strip_root p hp := by
    by_cases h : ∀ b ∈ p.value, b = sep
    · rw [posixStrip_of_root h]
      split
      · exact h
      · exact fun b hb => h b (List.mem_of_mem_take hb)
    · obtain ⟨b, hb, hne⟩ := getLast?_posixStrip h
      rw [hb] at hp
      exact absurd (Option.some.inj hp) hne
  strip_strip p := by
    refine FilePath.ext ?_
    by_cases h : ∀ b ∈ p.value, b = sep
    · have h' : ∀ b ∈ posixStrip p.value, b = sep := by
        rw [posixStrip_of_root h]
        split
        · exact h
        · exact fun b hb => h b (List.mem_of_mem_take hb)
      show posixStrip (posixStrip p.value) = posixStrip p.value
      rw [posixStrip_of_root h', posixStrip_of_root h]
      by_cases hlen : p.value.length = 2
      · simp only [if_pos hlen]
      · simp only [if_neg hlen, List.length_take, List.take_take, Nat.min_self]
        rw [if_neg (by omega)]
    · obtain ⟨b, hb, hne⟩ := getLast?_posixStrip h
      have h' : ¬ ∀ b ∈ posixStrip p.value, b = sep := fun hall =>
        hne (hall b (List.mem_of_getLast? hb))
      show posixStrip (posixStrip p.value) = posixStrip p.value
      rw [posixStrip_of_not_root h', posixStrip_of_not_root h, List.rdropWhile_idempotent]

/-! ## Components and strings -/

namespace FilePath

lemma names_append (s t : List UInt8) : names (s ++ sep :: t) = names s ++ names t := by
  rw [names, List.splitOn_append_cons_self, List.filter_append]
  rfl

@[simp] lemma names_nil : names [] = [] := by simp [names]

lemma names_append_replicate (s : List UInt8) (k : ℕ) :
    names (s ++ List.replicate k sep) = names s := by
  induction k with
  | zero => simp
  | succ k ih =>
      rw [List.replicate_succ', ← List.append_assoc, names_append, ih, names_nil,
        List.append_nil]

/-- Separators at the end of a path that is not empty change no component. -/
lemma components_of_append {p q : FilePath} {k : ℕ}
    (h : p.value = q.value ++ List.replicate k sep) (hq : q.value ≠ []) :
    p.components = q.components := by
  have habs : p.isAbsolute = q.isAbsolute := by
    simp only [isAbsolute, h]
    rw [List.head?_append_of_ne_nil _ hq]
  rw [components, components, habs, h, names_append_replicate]

/-- A path extends the components of a directory whose string it extends. -/
lemma components_extend_of_extends {k p : FilePath} (hk : k.value.getLast? = some sep)
    (h : k.value <+: p.value) : k.components <+: p.components := by
  obtain ⟨dir, hdir⟩ := List.getLast?_eq_some_iff.mp hk
  obtain ⟨rest, hrest⟩ := h
  have habs : p.isAbsolute = k.isAbsolute := by
    simp only [isAbsolute, ← hrest]
    rw [List.head?_append_of_ne_nil _ (by simp [hdir])]
  refine ⟨names rest, ?_⟩
  have hsplit : dir ++ [sep] ++ rest = dir ++ sep :: rest := by simp
  rw [components, components, habs, ← hrest, hdir, hsplit, names_append, names_append]
  simp

lemma prefix_of_between {k x p : FilePath} (h : k.value <+: p.value) (hkx : k ≤ x)
    (hxp : x ≤ p) : k.value <+: x.value := by
  have hmap := TorOnion.prefix_of_between (h.map UInt8.toNat) hkx hxp
  exact (List.prefix_map_iff_of_injective (fun _ _ => uint8_ext)).mp hmap

lemma le_of_extends {k p : FilePath} (h : k.value <+: p.value) : k ≤ p :=
  TorOnion.le_of_extends (h.map UInt8.toNat)

end FilePath

end TorOnion
