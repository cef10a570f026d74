import Instinct.Util.Except
import Mathlib.Data.List.Basic
import Mathlib.Data.Nat.Digits

namespace Instinct.Gui

inductive StdException where
  | outOfRange
  | invalidArgument
  deriving DecidableEq, Repr

/-- A C++ `int`, which is 32 bits wide on every platform the program is built for. -/
structure CInt where
  val : Int
  ge_min : -2147483648 ≤ val
  le_max : val ≤ 2147483647
  deriving DecidableEq, Repr

/-- `std::string::at(pos)`. -/
def charAt (s : List Char) (pos : Nat) : Except StdException Char :=
  match s[pos]? with
  | some c => .ok c
  | none => .error .outOfRange

/-- `a - b` on `std::size_t`, which is 64 bits wide and wraps below zero. -/
def sizeSub (a b : Nat) : Nat := (a + 18446744073709551616 - b) % 18446744073709551616

def substr (s : List Char) (pos count : Nat) : Except StdException (List Char) :=
  if pos ≤ s.length then .ok ((s.drop pos).take count) else .error .outOfRange

/-- The pieces read by `while (std::getline(stream, piece, delim))` from the rest of a string,
with `piece` the characters read since the last delimiter, latest first. A read that reaches the
end without extracting anything fails, so a delimiter at the very end starts no piece. -/
def getlinesFrom (delim : Char) : List Char → List Char → List (List Char)
  | piece, [] => if piece = [] then [] else [piece.reverse]
  | piece, c :: cs =>
    if c = delim then piece.reverse :: getlinesFrom delim [] cs
    else getlinesFrom delim (c :: piece) cs

def getlines (delim : Char) (s : List Char) : List (List Char) := getlinesFrom delim [] s

structure StringStream where
  rest : List Char
  good : Bool

/-- `std::getline(stream, cell, delim)`. A stream that is not good reads nothing and `cell` keeps
its value. Otherwise `cell` is erased and takes the characters up to the delimiter, which is read
too, or up to the end, which leaves the stream not good. -/
def getline (delim : Char) (stream : StringStream) (cell : List Char) :
    StringStream × List Char :=
  if stream.good then
    let piece := stream.rest.takeWhile (· != delim)
    match stream.rest.dropWhile (· != delim) with
    | _ :: rest => (⟨rest, true⟩, piece)
    | [] => (⟨[], false⟩, piece)
  else (stream, cell)

def isSpace (c : Char) : Bool :=
  c = ' ' || c = '\t' || c = '\n' || c = '\x0b' || c = '\x0c' || c = '\r'

def isDigit (c : Char) : Bool := '0' ≤ c && c ≤ '9'

def digitsValue (ds : List Char) : Nat := ds.foldl (fun n c => n * 10 + (c.toNat - '0'.toNat)) 0

def readSign : List Char → Bool × List Char
  | c :: t => if c = '-' then (true, t) else if c = '+' then (false, t) else (false, c :: t)
  | [] => (false, [])

/-- `std::stoi(s)`, which is `std::strtol(s, &end, 10)` checked against the range of `int`:
blanks, an optional sign, then the longest run of digits; no digit is `invalid_argument`. -/
def stoi (s : List Char) : Except StdException CInt :=
  let (neg, rest) := readSign (s.dropWhile isSpace)
  let ds := rest.takeWhile isDigit
  if ds = [] then .error .invalidArgument
  else
    let n : Int := if neg then -(digitsValue ds : Int) else digitsValue ds
    if h : -2147483648 ≤ n ∧ n ≤ 2147483647 then .ok ⟨n, h.1, h.2⟩ else .error .outOfRange

/-- `std::to_string(int)`: the decimal digits, after a minus sign if negative. -/
def toStringInt (n : Int) : List Char :=
  if n < 0 then '-' :: Nat.toDigits 10 n.natAbs else Nat.toDigits 10 n.natAbs

theorem substr_subset {s t : List Char} {pos count : Nat} (h : substr s pos count = .ok t) :
    ∀ c ∈ t, c ∈ s := by
  unfold substr at h
  split at h
  · cases h
    exact fun c hc => List.mem_of_mem_drop (List.mem_of_mem_take hc)
  · cases h

theorem getlinesFrom_append {delim : Char} {piece part : List Char} (hpart : delim ∉ part)
    (rest : List Char) :
    getlinesFrom delim piece (part ++ rest) = getlinesFrom delim (part.reverse ++ piece) rest := by
  induction part generalizing piece with
  | nil => rfl
  | cons c part ih =>
    have hc : c ≠ delim := fun h => hpart (h ▸ List.mem_cons_self c part)
    rw [List.cons_append, getlinesFrom, if_neg hc, ih (fun h => hpart (List.mem_cons_of_mem c h))]
    simp

theorem intercalate_cons {α} {d : α} (p : List α) (ps : List (List α)) :
    List.intercalate [d] (p :: ps) = p ++ (ps.map (d :: ·)).flatten := by
  induction ps generalizing p with
  | nil => simp [List.intercalate]
  | cons q qs ih =>
    rw [show List.intercalate [d] (p :: q :: qs) = p ++ d :: List.intercalate [d] (q :: qs) by
      simp [List.intercalate, List.intersperse_cons_cons], ih]
    simp

theorem mem_getlinesFrom {delim : Char} {p : List Char} :
    ∀ {piece s : List Char}, (∀ c ∈ piece, c ≠ delim) → p ∈ getlinesFrom delim piece s →
      ∀ c ∈ p, (c ∈ piece ∨ c ∈ s) ∧ c ≠ delim
  | piece, [], hpiece, hp, c, hc => by
    simp only [getlinesFrom] at hp
    split at hp
    · exact absurd hp (List.not_mem_nil _)
    · rw [List.mem_singleton.mp hp, List.mem_reverse] at hc
      exact ⟨.inl hc, hpiece c hc⟩
  | piece, d :: s, hpiece, hp, c, hc => by
    simp only [getlinesFrom] at hp
    split at hp
    · rcases List.mem_cons.mp hp with rfl | hp
      · rw [List.mem_reverse] at hc
        exact ⟨.inl hc, hpiece c hc⟩
      · obtain ⟨hcs, hcd⟩ := mem_getlinesFrom (fun _ h => absurd h (List.not_mem_nil _)) hp c hc
        exact ⟨.inr (List.mem_cons_of_mem d (hcs.resolve_left (List.not_mem_nil _))), hcd⟩
    · next hd =>
      have hpiece' : ∀ c ∈ d :: piece, c ≠ delim := by
        simp only [List.mem_cons, forall_eq_or_imp]
        exact ⟨hd, hpiece⟩
      obtain ⟨hcs, hcd⟩ := mem_getlinesFrom hpiece' hp c hc
      refine ⟨?_, hcd⟩
      simp only [List.mem_cons] at hcs ⊢
      tauto

theorem mem_getlines {delim : Char} {s p : List Char} (hp : p ∈ getlines delim s) :
    ∀ c ∈ p, c ∈ s ∧ c ≠ delim := fun c hc =>
  let h := mem_getlinesFrom (fun _ h => absurd h (List.not_mem_nil _)) hp c hc
  ⟨h.1.resolve_left (List.not_mem_nil _), h.2⟩

theorem length_le_getlinesFrom {delim : Char} {p : List Char} :
    ∀ {piece s : List Char}, p ∈ getlinesFrom delim piece s → p.length ≤ piece.length + s.length
  | piece, [], hp => by
    simp only [getlinesFrom] at hp
    split at hp
    · exact absurd hp (List.not_mem_nil _)
    · rw [List.mem_singleton.mp hp, List.length_reverse]
      omega
  | piece, d :: s, hp => by
    simp only [getlinesFrom] at hp
    split at hp
    · rcases List.mem_cons.mp hp with rfl | hp
      · simp only [List.length_reverse, List.length_cons]
        omega
      · have := length_le_getlinesFrom hp
        simp only [List.length_nil, List.length_cons] at this ⊢
        omega
    · have := length_le_getlinesFrom hp
      simp only [List.length_cons] at this ⊢
      omega

theorem length_le_of_mem_getlines {delim : Char} {s p : List Char} (hp : p ∈ getlines delim s) :
    p.length ≤ s.length := by
  simpa using length_le_getlinesFrom hp

/-- Pieces joined with the delimiter are read back by `std::getline`, when none holds the
delimiter and the last is not empty. -/
theorem getlines_intercalate {delim : Char} {pieces : List (List Char)}
    (hdelim : ∀ p ∈ pieces, delim ∉ p) (hlast : ∀ p ∈ pieces.getLast?, p ≠ []) :
    getlines delim (List.intercalate [delim] pieces) = pieces := by
  induction pieces with
  | nil => rfl
  | cons p ps ih =>
    have hp : delim ∉ p := hdelim p (List.mem_cons_self p ps)
    cases ps with
    | nil =>
      have hne : p ≠ [] := hlast p rfl
      simp only [List.intercalate, List.intersperse_single, List.flatten_cons, List.flatten_nil,
        List.append_nil]
      rw [getlines, ← List.append_nil p, getlinesFrom_append hp, getlinesFrom]
      simp [hne]
    | cons q qs =>
      have hrest : List.intercalate [delim] (p :: q :: qs) =
          p ++ delim :: List.intercalate [delim] (q :: qs) := by
        simp [List.intercalate, List.intersperse_cons_cons]
      rw [hrest, getlines, getlinesFrom_append hp, getlinesFrom, if_pos rfl]
      simp only [List.append_nil, List.reverse_reverse]
      exact congrArg (p :: ·) (ih (fun r hr => hdelim r (List.mem_cons_of_mem p hr))
        (fun r hr => hlast r (by simpa using hr)))

theorem getlines_three {d : Char} {a b c : List Char} (ha : d ∉ a) (hb : d ∉ b) (hc : d ∉ c)
    (hne : c ≠ []) : getlines d (a ++ d :: b ++ d :: c) = [a, b, c] := by
  have h : getlines d (List.intercalate [d] [a, b, c]) = [a, b, c] :=
    getlines_intercalate (by simp [ha, hb, hc]) (by simp [hne])
  simpa [intercalate_cons] using h

theorem bne_of_not_mem {d : Char} {piece : List Char} (h : d ∉ piece) :
    ∀ c ∈ piece, (c != d) = true := fun _ hc => bne_iff_ne.mpr (ne_of_mem_of_not_mem hc h)

theorem getline_append {d : Char} {piece : List Char} (h : d ∉ piece) (rest cell : List Char) :
    getline d ⟨piece ++ d :: rest, true⟩ cell = (⟨rest, true⟩, piece) := by
  simp [getline, List.takeWhile_append_of_pos (bne_of_not_mem h),
    List.dropWhile_append_of_pos (bne_of_not_mem h)]

theorem getline_of_not_mem {d : Char} {piece : List Char} (h : d ∉ piece) (cell : List Char) :
    getline d ⟨piece, true⟩ cell = (⟨[], false⟩, piece) := by
  simp [getline, List.takeWhile_eq_self_iff.mpr (bne_of_not_mem h),
    List.dropWhile_eq_nil_iff.mpr (bne_of_not_mem h)]

theorem digitChar_isDigit : ∀ k < 10, isDigit (Nat.digitChar k) = true := by decide

theorem digitChar_value : ∀ k < 10, (Nat.digitChar k).toNat - '0'.toNat = k := by decide

theorem toDigitsCore_isDigit (fuel n : Nat) (ds : List Char) (hds : ∀ c ∈ ds, isDigit c = true) :
    ∀ c ∈ Nat.toDigitsCore 10 fuel n ds, isDigit c = true := by
  induction fuel generalizing n ds with
  | zero => exact hds
  | succ fuel ih =>
    have hd : ∀ c ∈ Nat.digitChar (n % 10) :: ds, isDigit c = true := by
      simp only [List.mem_cons, forall_eq_or_imp]
      exact ⟨digitChar_isDigit _ (Nat.mod_lt n (by decide)), hds⟩
    simp only [Nat.toDigitsCore]
    split
    · exact hd
    · exact ih _ _ hd

theorem foldl_toDigitsCore (fuel : Nat) :
    ∀ n (ds : List Char), n < fuel →
      (Nat.toDigitsCore 10 fuel n ds).foldl (fun n c => n * 10 + (c.toNat - '0'.toNat)) 0 =
        ds.foldl (fun n c => n * 10 + (c.toNat - '0'.toNat)) n := by
  induction fuel with
  | zero => intro n ds h; omega
  | succ fuel ih =>
    intro n ds hn
    have hdigit := digitChar_value (n % 10) (Nat.mod_lt n (by decide))
    simp only [Nat.toDigitsCore]
    split
    · next h0 =>
      simp only [List.foldl_cons, hdigit]
      congr 1
      omega
    · next h0 =>
      rw [ih (n / 10) _ (by omega), List.foldl_cons, hdigit]
      congr 1
      omega

theorem toDigitsCore_ne_nil (fuel n : Nat) {ds : List Char} (hds : ds ≠ []) :
    Nat.toDigitsCore 10 fuel n ds ≠ [] := by
  induction fuel generalizing n ds with
  | zero => exact hds
  | succ fuel ih =>
    simp only [Nat.toDigitsCore]
    split
    · exact List.cons_ne_nil _ _
    · exact ih _ (List.cons_ne_nil _ _)

theorem toDigits_ne_nil (n : Nat) : Nat.toDigits 10 n ≠ [] := by
  simp only [Nat.toDigits, Nat.toDigitsCore]
  split
  · exact List.cons_ne_nil _ _
  · exact toDigitsCore_ne_nil _ _ (List.cons_ne_nil _ _)

theorem digitsValue_toDigits (n : Nat) : digitsValue (Nat.toDigits 10 n) = n :=
  foldl_toDigitsCore (n + 1) n [] (Nat.lt_succ_self n)

theorem toDigits_isDigit (n : Nat) : ∀ c ∈ Nat.toDigits 10 n, isDigit c = true :=
  toDigitsCore_isDigit (n + 1) n [] (fun _ h => absurd h (List.not_mem_nil _))

theorem isSpace_of_isDigit {c : Char} (h : isDigit c = true) : isSpace c = false := by
  simp only [isSpace, Bool.or_eq_false_iff, decide_eq_false_iff_not]
  refine ⟨⟨⟨⟨⟨?_, ?_⟩, ?_⟩, ?_⟩, ?_⟩, ?_⟩ <;> rintro rfl <;> exact absurd h (by decide)

theorem takeWhile_digits {ds : List Char} (hds : ∀ c ∈ ds, isDigit c = true) :
    ds.takeWhile isDigit = ds :=
  List.takeWhile_eq_self_iff.mpr hds

theorem toStringInt_ne_nil (n : Int) : toStringInt n ≠ [] := by
  unfold toStringInt
  split
  · exact List.cons_ne_nil _ _
  · exact toDigits_ne_nil _

theorem mem_toStringInt {n : Int} {c : Char} (h : c ∈ toStringInt n) :
    c = '-' ∨ isDigit c = true := by
  unfold toStringInt at h
  split at h
  · rcases List.mem_cons.mp h with h | h
    exacts [.inl h, .inr (toDigits_isDigit _ c h)]
  · exact .inr (toDigits_isDigit _ c h)

theorem not_mem_toStringInt {c : Char} (hminus : c ≠ '-') (hdigit : isDigit c = false) (n : Int) :
    c ∉ toStringInt n := fun h => by
  rcases mem_toStringInt h with h | h
  · exact hminus h
  · rw [hdigit] at h
    exact Bool.false_ne_true h

/-- `std::stoi` reads back every `int` that `std::to_string` writes. -/
theorem stoi_toStringInt (n : CInt) : stoi (toStringInt n.val) = .ok n := by
  obtain ⟨v, hmin, hmax⟩ := n
  have hne := toDigits_ne_nil v.natAbs
  have hdig := toDigits_isDigit v.natAbs
  obtain ⟨d, ds, hd⟩ := List.exists_cons_of_ne_nil hne
  have hd0 : isDigit d = true := hdig d (hd ▸ List.mem_cons_self d ds)
  have hread : readSign ((toStringInt v).dropWhile isSpace) =
      (decide (v < 0), Nat.toDigits 10 v.natAbs) := by
    unfold toStringInt
    split
    · next hneg =>
      rw [List.dropWhile_cons_of_neg (by decide), readSign, if_pos rfl, decide_eq_true hneg]
    · next hneg =>
      rw [hd, List.dropWhile_cons_of_neg (by simp [isSpace_of_isDigit hd0]), readSign,
        if_neg (by rintro rfl; exact absurd hd0 (by decide)),
        if_neg (by rintro rfl; exact absurd hd0 (by decide)), decide_eq_false hneg]
  have hvalue : (if decide (v < 0) = true then -(v.natAbs : Int) else v.natAbs) = v := by
    by_cases hneg : v < 0
    · rw [if_pos (decide_eq_true hneg)]
      omega
    · rw [if_neg (by simpa using hneg)]
      omega
  simp only [stoi, hread, takeWhile_digits hdig, hne, if_false, digitsValue_toDigits, hvalue]
  rw [dif_pos ⟨hmin, hmax⟩]

end Instinct.Gui
