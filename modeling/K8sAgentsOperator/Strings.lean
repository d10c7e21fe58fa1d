import Mathlib.Data.List.Basic
import Mathlib.Data.List.DropRight
import Mathlib.Data.List.Infix
/-!
# The parts of Go's `strings` package the injector calls

Kubernetes object fields reach the operator as UTF-8 text, so a Go string is
modelled as a Lean `String` and each function below works on its characters.
Every separator the injector splits on is one ASCII character, and the only
lower-cased text is compared with ASCII kind names, which is all `toLower`
has to get right.
-/

namespace K8sAgentsOperator.Strings

/-- `unicode.IsSpace`: the Latin-1 spaces, and above Latin-1 the `White_Space` table. -/
def isSpace (c : Char) : Bool :=
  if c.val ≤ 0xFF then
    c = '\t' || c = '\n' || c.val = 0x0B || c.val = 0x0C || c = '\r' || c = ' ' ||
      c.val = 0x85 || c.val = 0xA0
  else
    c.val = 0x1680 || (0x2000 ≤ c.val && c.val ≤ 0x200A) || c.val = 0x2028 || c.val = 0x2029 ||
      c.val = 0x202F || c.val = 0x205F || c.val = 0x3000

/-- `strings.Split(s, sep)` for a one-character `sep`. -/
def split (s : String) (sep : Char) : List String :=
  (s.data.splitOn sep).map String.mk

/-- `strings.TrimSpace`: `TrimRightFunc (TrimLeftFunc s unicode.IsSpace) unicode.IsSpace`. -/
def trimSpace (s : String) : String :=
  ⟨(s.data.dropWhile isSpace).rdropWhile isSpace⟩

/-- `strings.Contains`. -/
def contains (s substr : String) : Bool :=
  decide (substr.data <:+: s.data)

/-- `strings.HasSuffix`. -/
def hasSuffix (s suffix : String) : Bool :=
  decide (suffix.data <:+ s.data)

/-- `strings.HasPrefix`. -/
def hasPrefix (s pre : String) : Bool :=
  decide (pre.data <+: s.data)

/-- `strings.Join`. -/
def join (elems : List String) (sep : String) : String :=
  ⟨sep.data.intercalate (elems.map String.data)⟩

/-- `unicode.ToLower` on the characters that lower to an ASCII letter: `A`..`Z`, the
Kelvin sign and the dotted capital I. Every other character is left as it is. -/
def toLowerChar (c : Char) : Char :=
  if c.val = 0x212A then 'k' else if c.val = 0x130 then 'i' else c.toLower

/-- `strings.ToLower`, as far as a comparison with an ASCII name can tell. -/
def toLower (s : String) : String :=
  ⟨s.data.map toLowerChar⟩

/-! ## Splitting what was joined -/

theorem split_data (s : String) (sep : Char) :
    (split s sep).map String.data = s.data.splitOn sep := by
  simp [split, Function.comp_def]

/-- Splitting on a separator that occurs in no part gives the parts back. -/
theorem split_join {parts : List String} {sep : Char} (hne : parts ≠ [])
    (h : ∀ p ∈ parts, sep ∉ p.data) : split (join parts ⟨[sep]⟩) sep = parts := by
  have hd : (join parts ⟨[sep]⟩).data.splitOn sep = parts.map String.data :=
    List.splitOn_intercalate _ sep (by simpa using h) (by simpa using hne)
  simp only [split, hd, List.map_map]
  exact List.map_id'' (fun _ => rfl) parts

theorem split_of_not_mem {s : String} {sep : Char} (h : sep ∉ s.data) : split s sep = [s] := by
  simp only [split, List.splitOn]
  rw [List.splitOnP_eq_single _ _ (by intro x hx e; rw [beq_iff_eq] at e; exact h (e ▸ hx))]
  rfl

/-- `strings.Contains` with a one-character substring is membership. -/
theorem contains_singleton (s : String) (c : Char) : contains s ⟨[c]⟩ = decide (c ∈ s.data) := by
  simp only [contains, decide_eq_decide]
  exact ⟨fun h => h.subset (List.mem_singleton_self c), fun h => by
    obtain ⟨l₁, l₂, hs⟩ := List.mem_iff_append.1 h
    exact ⟨l₁, l₂, by simp [hs]⟩⟩

theorem contains_append_right {a k : String} (b : String) (h : contains a k = true) :
    contains (a ++ b) k = true := by
  simp only [contains, decide_eq_true_eq, String.data_append] at h ⊢
  exact h.trans (List.prefix_append _ _).isInfix

/-! ## Splitting at one separator -/

theorem splitOnP_append_cons {α : Type} (p : α → Bool) (xs ys : List α) {a : α} (ha : p a = true) :
    (xs ++ a :: ys).splitOnP p = xs.splitOnP p ++ ys.splitOnP p := by
  induction xs with
  | nil => simp [ha]
  | cons x xs ih =>
    rw [List.cons_append, List.splitOnP_cons, List.splitOnP_cons, ih]
    split
    · rfl
    · obtain ⟨l, ls, hl⟩ := List.exists_cons_of_ne_nil (List.splitOnP_ne_nil p xs)
      rw [hl]; rfl

/-- The first part is everything before the first separator. -/
theorem head?_splitOnP {α : Type} (p : α → Bool) (xs : List α) :
    (xs.splitOnP p).head? = some (xs.takeWhile fun x => !p x) := by
  induction xs with
  | nil => rfl
  | cons x xs ih =>
    rw [List.splitOnP_cons, List.takeWhile_cons]
    cases hx : p x
    · obtain ⟨l, ls, hl⟩ := List.exists_cons_of_ne_nil (List.splitOnP_ne_nil p xs)
      rw [hl] at ih ⊢
      simp_all
    · rfl

/-- Every part is a piece of the text. -/
theorem infix_of_mem_splitOnP {α : Type} (p : α → Bool) :
    ∀ (xs : List α) {l : List α}, l ∈ xs.splitOnP p → l <:+: xs
  | [], l, h => by simp only [List.splitOnP_nil, List.mem_singleton] at h; subst h; exact List.nil_infix
  | x :: xs, l, h => by
    rw [List.splitOnP_cons] at h
    split at h
    · rcases List.mem_cons.1 h with rfl | h
      · exact List.nil_infix
      · exact List.infix_cons (infix_of_mem_splitOnP p xs h)
    · obtain ⟨a, as, hl⟩ := List.exists_cons_of_ne_nil (List.splitOnP_ne_nil p xs)
      have ha : a = xs.takeWhile fun x => !p x := by simpa [hl] using head?_splitOnP p xs
      rw [hl, List.modifyHead_cons] at h
      rcases List.mem_cons.1 h with rfl | h
      · exact (List.prefix_cons_inj x |>.2 (ha ▸ List.takeWhile_prefix _)).isInfix
      · exact List.infix_cons (infix_of_mem_splitOnP p xs (hl ▸ List.mem_cons_of_mem _ h))

/-- Splitting at one occurrence of the separator splits each side on its own. -/
theorem split_append_sep (a b : String) (sep : Char) :
    split (a ++ ⟨[sep]⟩ ++ b) sep = split a sep ++ split b sep := by
  simp only [split, String.data_append, List.append_assoc, List.singleton_append, List.splitOn]
  rw [splitOnP_append_cons (· == sep) _ _ (beq_self_eq_true sep), List.map_append]

/-- The last part of a split is what follows the last separator. -/
theorem split_getLastD_append_sep (pre post : String) {sep : Char} (h : sep ∉ post.data) :
    (split (pre ++ ⟨[sep]⟩ ++ post) sep).getLastD "" = post := by
  rw [split_append_sep, split_of_not_mem h, List.getLastD_eq_getLast?, List.getLast?_append]
  rfl

theorem rdropWhile_append_cons {α : Type} (p : α → Bool) (xs ys : List α) {a : α} (ha : p a = false) :
    (xs ++ a :: ys).rdropWhile p = xs ++ a :: ys.rdropWhile p := by
  induction ys using List.reverseRecOn with
  | nil => simp [List.rdropWhile_concat, ha]
  | append_singleton ys y ih =>
    rw [← List.cons_append, ← List.append_assoc, List.rdropWhile_concat, List.rdropWhile_concat]
    split
    · exact ih
    · simp

/-- Text with no space at either end is its own trim. -/
theorem trimSpace_of_ends {s : String} (hh : ∀ c, s.data.head? = some c → isSpace c = false)
    (hl : ∀ c, s.data.getLast? = some c → isSpace c = false) : trimSpace s = s := by
  have h1 : s.data.dropWhile isSpace = s.data := by
    cases hs : s.data with
    | nil => rfl
    | cons c cs => simp [List.dropWhile_cons, hh c (by simp [hs])]
  simp only [trimSpace, h1, List.rdropWhile_eq_self_iff.2 fun hne => by
    simpa using hl _ (List.getLast?_eq_getLast _ hne)]

end K8sAgentsOperator.Strings
