import Mathlib.Data.List.Basic
import Mathlib.Data.List.DropRight
import Mathlib.Tactic.IntervalCases
import Mathlib.Data.Nat.Digits

/-!
# Go formatting used by the agent

The `%d` rendering of the IP-cache key `"<bridge>-<ofport>"`, Go's float-to-`int32`
conversion, and the `%v`/`Split`/`Join`/`Trim` pipeline that renders a port's trunk list.
The key is injective on non-negative port numbers because a decimal rendering never holds
a `-`, so the last `-` of a key separates the bridge name from the port number.
-/
namespace Everoute.Monitor

/-! ### Decimal digits -/

/-- The value of a string of decimal digits. -/
def digitsValue (cs : List Char) : Nat :=
  cs.foldl (fun acc c => 10 * acc + (c.toNat - 48)) 0

/-- A character in `'0'..'9'`. -/
def IsDecimalDigit (c : Char) : Prop := 48 ≤ c.toNat ∧ c.toNat < 58

theorem digitChar_toNat {d : Nat} (h : d < 10) : (Nat.digitChar d).toNat = 48 + d := by
  interval_cases d <;> rfl

private theorem toDigitsCore_eq (n : Nat) :
    ∀ fuel ds, n < fuel → Nat.toDigitsCore 10 fuel n ds = Nat.toDigits 10 n ++ ds := by
  induction n using Nat.strong_induction_on with
  | _ n ih =>
    intro fuel ds bound
    obtain ⟨fuel, rfl⟩ : ∃ f, fuel = f + 1 := ⟨fuel - 1, by omega⟩
    simp only [Nat.toDigits, Nat.toDigitsCore]
    by_cases last : n / 10 = 0
    · simp [last]
    · simp only [last, if_false]
      rw [ih (n / 10) (by omega) fuel _ (by omega), ih (n / 10) (by omega) n _ (by omega)]
      simp

/-- `Nat.toDigits` writes the digits of `n / 10`, then the last digit. -/
theorem toDigits_eq (n : Nat) :
    Nat.toDigits 10 n =
      (if n / 10 = 0 then [] else Nat.toDigits 10 (n / 10)) ++ [Nat.digitChar (n % 10)] := by
  conv_lhs => rw [Nat.toDigits, Nat.toDigitsCore]
  by_cases last : n / 10 = 0
  · simp [last]
  · simp only [last, if_false]
    exact toDigitsCore_eq (n / 10) n _ (by omega)

theorem isDecimalDigit_of_mem_toDigits (n : Nat) : ∀ c ∈ Nat.toDigits 10 n, IsDecimalDigit c := by
  induction n using Nat.strong_induction_on with
  | _ n ih =>
    rw [toDigits_eq]
    intro c member
    simp only [List.mem_append, List.mem_singleton] at member
    rcases member with front | rfl
    · split at front
      · simp at front
      · exact ih (n / 10) (by omega) c front
    · have := digitChar_toNat (Nat.mod_lt n (by omega : 10 > 0))
      constructor <;> omega

theorem digitsValue_toDigits (n : Nat) : digitsValue (Nat.toDigits 10 n) = n := by
  induction n using Nat.strong_induction_on with
  | _ n ih =>
    have last := digitChar_toNat (Nat.mod_lt n (by omega : 10 > 0))
    rw [toDigits_eq]
    simp only [digitsValue, List.foldl_append, List.foldl_cons, List.foldl_nil] at ih ⊢
    split
    · simp only [List.foldl_nil]; omega
    · rw [ih (n / 10) (by omega)]; omega

theorem toDigits_injective {a b : Nat} (h : Nat.toDigits 10 a = Nat.toDigits 10 b) : a = b := by
  rw [← digitsValue_toDigits a, ← digitsValue_toDigits b, h]

/-- `%d` of a non-negative integer is its decimal digits. -/
theorem toString_data_of_nonneg {i : Int} (h : 0 ≤ i) :
    (toString i).data = Nat.toDigits 10 i.toNat := by
  obtain ⟨m, rfl⟩ := Int.eq_ofNat_of_zero_le h
  rfl

/-- `%d` of a negative integer is a minus sign, then the digits of its magnitude. -/
theorem toString_data_of_neg {i : Int} (h : i < 0) :
    (toString i).data = '-' :: Nat.toDigits 10 i.natAbs := by
  obtain ⟨m, rfl⟩ := Int.exists_eq_neg_ofNat (le_of_lt h)
  cases m with
  | zero => simp at h
  | succ m => rfl

/-! ### Cutting a list at its last separator -/

/-- A separator that occurs in neither tail splits both lists at the same place. -/
theorem append_cons_cancel {α : Type} {l₁ l₂ m₁ m₂ : List α} {c : α}
    (h₁ : c ∉ m₁) (h₂ : c ∉ m₂) (h : l₁ ++ c :: m₁ = l₂ ++ c :: m₂) :
    l₁ = l₂ ∧ m₁ = m₂ := by
  rcases List.append_eq_append_iff.mp h with ⟨a, rfl, tail⟩ | ⟨a, rfl, tail⟩
  · cases a with
    | nil => simpa using tail
    | cons x a => simp only [List.cons_append, List.cons.injEq] at tail; simp_all
  · cases a with
    | nil => simpa using tail.symm
    | cons x a => simp only [List.cons_append, List.cons.injEq] at tail; simp_all

/-! ### The IP-cache key -/

/-- `fmt.Sprintf("%s-%d", bridgeName, ofport)`, the key of an interface in the IP cache. -/
def ifaceKey (bridgeName : String) (ofport : BitVec 32) : String :=
  bridgeName ++ "-" ++ toString ofport.toInt

theorem ifaceKey_data (bridgeName : String) (ofport : BitVec 32) :
    (ifaceKey bridgeName ofport).data = bridgeName.data ++ '-' :: (toString ofport.toInt).data :=
  by simp [ifaceKey]

private theorem dash_not_mem_toDigits (n : Nat) : '-' ∉ Nat.toDigits 10 n := fun member => by
  have := isDecimalDigit_of_mem_toDigits n '-' member
  simp [IsDecimalDigit] at this

theorem toInt_lt_two_pow (o : BitVec 32) : o.toInt < 2 ^ 31 := by
  rw [BitVec.toInt_eq_toNat_cond]
  have := o.isLt
  split <;> omega

/-- The port numbers a snapshot holds: non-negative ones, and the minimum `int32` that Go's
conversion gives an out-of-range ofport. -/
def ValidOfport (ofport : BitVec 32) : Prop := 0 ≤ ofport.toInt ∨ ofport.toInt = -2 ^ 31

instance (ofport : BitVec 32) : Decidable (ValidOfport ofport) :=
  inferInstanceAs (Decidable (_ ∨ _))

/-- The key cuts at its last `-`: what follows is the decimal of a non-negative port number, or
of the minimum `int32` after one more `-`. -/
private theorem ifaceKey_data_of_valid (bridgeName : String) {ofport : BitVec 32}
    (valid : ValidOfport ofport) :
    ∃ front, (ifaceKey bridgeName ofport).data = front ++ '-' :: Nat.toDigits 10 ofport.toInt.natAbs ∧
      front = bridgeName.data ++ (if 0 ≤ ofport.toInt then [] else ['-']) := by
  rcases valid with nonneg | least
  · refine ⟨bridgeName.data, ?_, by simp [nonneg]⟩
    rw [ifaceKey_data, toString_data_of_nonneg nonneg]
    congr 3
    omega
  · refine ⟨bridgeName.data ++ ['-'], ?_, by simp [least]⟩
    rw [ifaceKey_data, toString_data_of_neg (by omega)]
    simp

/-- Two bridges and port numbers a snapshot can hold give the same key only when both the
bridges and the port numbers are the same. -/
theorem ifaceKey_injective_of_valid {b₁ b₂ : String} {o₁ o₂ : BitVec 32}
    (valid₁ : ValidOfport o₁) (valid₂ : ValidOfport o₂)
    (same : ifaceKey b₁ o₁ = ifaceKey b₂ o₂) : b₁ = b₂ ∧ o₁ = o₂ := by
  obtain ⟨front₁, key₁, rfl⟩ := ifaceKey_data_of_valid b₁ valid₁
  obtain ⟨front₂, key₂, rfl⟩ := ifaceKey_data_of_valid b₂ valid₂
  have lists := congrArg String.data same
  rw [key₁, key₂] at lists
  obtain ⟨fronts, digits⟩ :=
    append_cons_cancel (dash_not_mem_toDigits _) (dash_not_mem_toDigits _) lists
  have magnitude := toDigits_injective digits
  have bound₁ := toInt_lt_two_pow o₁
  have bound₂ := toInt_lt_two_pow o₂
  have ports : o₁.toInt = o₂.toInt := by
    rcases valid₁ with h₁ | h₁ <;> rcases valid₂ with h₂ | h₂ <;> omega
  rw [ports] at fronts
  exact ⟨String.ext (List.append_cancel_right fronts), BitVec.toInt_inj.mp ports⟩

/-- Two non-negative port numbers on two bridges give the same key only when both the
bridges and the port numbers are the same. -/
theorem ifaceKey_injective {b₁ b₂ : String} {o₁ o₂ : BitVec 32}
    (nonneg₁ : 0 ≤ o₁.toInt) (nonneg₂ : 0 ≤ o₂.toInt) (same : ifaceKey b₁ o₁ = ifaceKey b₂ o₂) :
    b₁ = b₂ ∧ o₁ = o₂ :=
  ifaceKey_injective_of_valid (.inl nonneg₁) (.inl nonneg₂) same

theorem ifaceKey_injective_on_sample :
    0 ≤ (5 : BitVec 32).toInt ∧ 0 ≤ (5 : BitVec 32).toInt ∧ ifaceKey "br-0" 5 = ifaceKey "br-0" 5 ∧
      ("br-0" = "br-0" ∧ (5 : BitVec 32) = 5) :=
  ⟨by decide, by decide, rfl, ifaceKey_injective (by decide) (by decide) rfl⟩

/-- Without the sign condition the key is not injective. -/
example : ifaceKey "br" (-1) = ifaceKey "br-" 1 := by decide

/-! ### Float to `int32` -/

/-- Go's `int32(f)` for a float64 `f` that holds the integer `x`. Go leaves the result of an
out-of-range conversion to the implementation; this is amd64's, the minimum `int32`. -/
def int32OfFloat (x : Int) : BitVec 32 :=
  if -2 ^ 31 ≤ x ∧ x < 2 ^ 31 then BitVec.ofInt 32 x else BitVec.ofInt 32 (-2 ^ 31)

theorem validOfport_int32OfFloat {x : Int} (nonneg : 0 ≤ x) : ValidOfport (int32OfFloat x) := by
  unfold int32OfFloat ValidOfport
  split
  · left
    rw [BitVec.toInt_ofInt, Int.bmod]
    split <;> omega
  · right
    decide

theorem validOfport_zero : ValidOfport 0 := by decide

/-! ### Rendering the trunk list -/

/-- `fmt.Sprintf("%v", x)` for a float64 `x` holding an integer: `%g` at the shortest
precision, which writes an exponent from `1e+06` on. Exact where float64 is, below 2^53. -/
def formatFloatV (x : Int) : String :=
  if x.natAbs < 10 ^ 6 then toString x
  else
    let digits := Nat.toDigits 10 x.natAbs
    let exponent := digits.length - 1
    let mantissa := match digits.rdropWhile (· == '0') with
      | d :: rest@(_ :: _) => d :: '.' :: rest
      | significant => significant
    ⟨(if x < 0 then ['-'] else []) ++ mantissa ++ ['e', '+'] ++
      (if exponent < 10 then ['0'] else []) ++ Nat.toDigits 10 exponent⟩

/-- `fmt.Sprintf("%v", xs)` for a `[]float64`: the elements' `%v` forms, separated by spaces,
between brackets. -/
def sprintV (xs : List Int) : String :=
  ⟨'[' :: [' '].intercalate (xs.map fun x => (formatFloatV x).data) ++ [']']⟩

/-- `strings.Split(s, sep)` for a one-character separator, the only kind the agent uses. -/
def goSplit (s : String) (sep : Char) : List String :=
  (s.data.splitOn sep).map String.mk

/-- `strings.Join(elems, sep)`. -/
def goJoin (elems : List String) (sep : String) : String :=
  ⟨sep.data.intercalate (elems.map String.data)⟩

/-- `strings.Trim(s, cutset)`: the leading and the trailing characters of `s` that are in
`cutset` are dropped. -/
def goTrim (s cutset : String) : String :=
  ⟨(s.data.dropWhile (· ∈ cutset.data)).rdropWhile (· ∈ cutset.data)⟩

/-- The trunk string of `fetchPortLocked`:
`strings.Trim(strings.Join(strings.Split(fmt.Sprintf("%v", ovsTrunks), " "), ","), "[]")`. -/
def trunkString (ovsTrunks : List Int) : String :=
  goTrim (goJoin (goSplit (sprintV ovsTrunks) ' ') ",") "[]"

section Intercalate

variable {α : Type}

private theorem intercalate_cons_of_ne_nil (sep a : List α) {L : List (List α)} (h : L ≠ []) :
    sep.intercalate (a :: L) = a ++ sep ++ sep.intercalate L := by
  obtain ⟨b, L, rfl⟩ := List.exists_cons_of_ne_nil h
  simp [List.intercalate]

private theorem intercalate_cons_head (sep : List α) (c : α) (l : List α) (L : List (List α)) :
    sep.intercalate ((c :: l) :: L) = c :: sep.intercalate (l :: L) := by
  cases L <;> simp [List.intercalate]

theorem mem_intercalate_singleton {y c : α} {L : List (List α)}
    (member : c ∈ [y].intercalate L) : c = y ∨ ∃ l ∈ L, c ∈ l := by
  induction L with
  | nil => simp [List.intercalate] at member
  | cons a L ih =>
    cases L with
    | nil => simp [List.intercalate] at member; exact .inr ⟨a, by simp, member⟩
    | cons b L =>
      rw [intercalate_cons_of_ne_nil _ _ (List.cons_ne_nil b L)] at member
      simp only [List.mem_append, List.mem_singleton] at member
      rcases member with (inA | rfl) | rest
      · exact .inr ⟨a, by simp, inA⟩
      · exact .inl rfl
      · rcases ih rest with rfl | ⟨l, hl, inL⟩
        · exact .inl rfl
        · exact .inr ⟨l, List.mem_cons_of_mem a hl, inL⟩

variable [DecidableEq α]

/-- Splitting at `x` and joining with `y` replaces every `x` by `y`. -/
theorem intercalate_splitOn_replace (x y : α) (xs : List α) :
    [y].intercalate (xs.splitOn x) = xs.map fun c => if c = x then y else c := by
  induction xs with
  | nil => rfl
  | cons c xs ih =>
    obtain ⟨l, L, parts⟩ := List.exists_cons_of_ne_nil (List.splitOnP_ne_nil (· == x) xs)
    simp only [List.splitOn, List.splitOnP_cons, beq_iff_eq] at ih ⊢
    rw [parts] at ih ⊢
    by_cases hc : c = x
    · simp only [hc, if_true, List.map_cons]
      rw [intercalate_cons_of_ne_nil _ _ (List.cons_ne_nil l L), ih]
      rfl
    · simp only [hc, if_false, List.map_cons, List.modifyHead_cons]
      rw [intercalate_cons_head, ih]

/-- Replacing `x` in a list joined with `x`, whose parts hold no `x`, joins it with `y`. -/
theorem map_replace_intercalate (x y : α) {L : List (List α)} (absent : ∀ l ∈ L, x ∉ l) :
    ([x].intercalate L).map (fun c => if c = x then y else c) = [y].intercalate L := by
  induction L with
  | nil => rfl
  | cons a L ih =>
    have fixed : a.map (fun c => if c = x then y else c) = a := by
      refine (List.map_congr_left fun c hc => ?_).trans (List.map_id a)
      by_cases h : c = x
      · exact absurd (h ▸ hc) (absent a (List.mem_cons_self a L))
      · simp [h]
    cases L with
    | nil => simpa [List.intercalate] using fixed
    | cons b L =>
      rw [intercalate_cons_of_ne_nil _ _ (List.cons_ne_nil b L),
        intercalate_cons_of_ne_nil _ _ (List.cons_ne_nil b L), List.map_append, List.map_append,
        fixed, ih (fun l hl => absent l (List.mem_cons_of_mem a hl))]
      simp

end Intercalate

/-- Trimming the brackets off a bracketed text that holds none. -/
theorem goTrim_brackets {X : List Char} (plain : ∀ c ∈ X, c ≠ '[' ∧ c ≠ ']') :
    goTrim ⟨'[' :: X ++ [']']⟩ "[]" = ⟨X⟩ := by
  have cutset : "[]".data = ['[', ']'] := rfl
  simp only [goTrim, String.ext_iff, cutset]
  cases X with
  | nil => decide
  | cons x X =>
    have keep := plain x (List.mem_cons_self x X)
    simp only [List.cons_append, List.dropWhile_cons, List.mem_cons, List.mem_singleton,
      List.not_mem_nil, or_false, keep.1, keep.2, decide_False, Bool.false_eq_true, if_false,
      decide_True, if_true, true_or]
    rw [← List.cons_append, List.rdropWhile_concat_pos, List.rdropWhile_eq_self_iff]
    · intro nonempty
      have := plain _ (List.getLast_mem nonempty)
      simp [this]
    · decide

theorem formatFloatV_of_small {x : Int} (small : x.natAbs < 10 ^ 6) : formatFloatV x = toString x :=
  if_pos small

/-- For VLAN ids, the trunk string is their decimal renderings joined by commas. -/
theorem trunkString_eq (ids : List Int) (vlan : ∀ id ∈ ids, 0 ≤ id ∧ id < 10 ^ 6) :
    trunkString ids = goJoin (ids.map toString) "," := by
  have digits : ∀ id ∈ ids, ∀ c ∈ (toString id).data, IsDecimalDigit c := fun id hid c hc =>
    isDecimalDigit_of_mem_toDigits _ c (toString_data_of_nonneg (vlan id hid).1 ▸ hc)
  have rendered : ids.map (fun x => (formatFloatV x).data) = ids.map (fun id => (toString id).data) :=
    List.map_congr_left fun id hid => by
      rw [formatFloatV_of_small (by have := vlan id hid; omega)]
  have noSpace : ∀ l ∈ ids.map (fun id => (toString id).data), ' ' ∉ l := by
    simp only [List.mem_map]
    rintro _ ⟨id, hid, rfl⟩ space
    have := digits id hid _ space
    simp [IsDecimalDigit] at this
  simp only [trunkString, goJoin, goSplit, sprintV, rendered, List.map_map, Function.comp_def,
    List.map_id', show ",".data = [','] from rfl]
  rw [intercalate_splitOn_replace, List.map_append, List.map_cons,
    map_replace_intercalate _ _ noSpace]
  simp only [show (if ']' = ' ' then ',' else ']') = ']' by decide,
    show (if '[' = ' ' then ',' else '[') = '[' by decide, List.map_cons, List.map_nil]
  apply goTrim_brackets
  intro c member
  rcases mem_intercalate_singleton member with rfl | ⟨l, hl, inL⟩
  · decide
  · simp only [List.mem_map] at hl
    obtain ⟨id, hid, rfl⟩ := hl
    have := digits id hid c inL
    constructor <;> intro h <;> subst h <;> simp [IsDecimalDigit] at this

/-- Split at commas, the comma-joined renderings of non-negative integers read back, part by
part, as the integers: no rendering holds a comma, so the split undoes the join. -/
theorem decode_goJoin_toString {ids : List Int} (nonneg : ∀ id ∈ ids, 0 ≤ id) (nonempty : ids ≠ []) :
    (goSplit (goJoin (ids.map toString) ",") ',').map (fun part => (digitsValue part.data : Int)) =
      ids := by
  have noComma : ∀ l ∈ ids.map fun id => (toString id).data, ',' ∉ l := by
    simp only [List.mem_map]
    rintro _ ⟨id, member, rfl⟩ comma
    have := isDecimalDigit_of_mem_toDigits _ ',' (toString_data_of_nonneg (nonneg id member) ▸ comma)
    simp [IsDecimalDigit] at this
  have split : ([','].intercalate (ids.map fun id => (toString id).data)).splitOn ',' =
      ids.map fun id => (toString id).data :=
    List.splitOn_intercalate _ ',' noComma (by simpa using nonempty)
  simp only [goSplit, goJoin, List.map_map, Function.comp_def, show ",".data = [','] from rfl, split]
  conv_rhs => rw [← List.map_id ids]
  refine List.map_congr_left fun id member => ?_
  rw [toString_data_of_nonneg (nonneg id member), digitsValue_toDigits, id_eq,
    Int.toNat_of_nonneg (nonneg id member)]

end Everoute.Monitor
