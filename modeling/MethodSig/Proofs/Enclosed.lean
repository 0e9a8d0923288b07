import MethodSig.Proofs.Head
import Mathlib.Data.List.Basic

/-!
# `Proofs.Enclosed` — the parameters stand between the parentheses

A parameter list is read from its opening parenthesis on with all that follows before it, and it ends
where no pair begins and a closing parenthesis stands. Parameters alone are read from a text that is
nothing else, up to its end. The two agree: the list of a signature is read from what stands between its
parenthesis and the nearest closing one, as if that were the whole text, whatever other parentheses open
in between and whatever follows.

An *occurrence* cuts a text at the signature that it holds and at its parentheses. There is one where a
signature is found, and the name and the parameters are those of its parts, whichever it is
(`Occurrence.IsOf.name_eq`, `Occurrence.IsOf.params_eq`).
-/

namespace MethodSig

/-- A text in parts, cut at a signature in it. -/
structure Occurrence where
  /-- What stands before the signature. -/
  before : List Char
  /-- The signature up to its opening parenthesis. -/
  heading : List Char
  /-- What stands between the parentheses. -/
  body : List Char
  /-- What stands behind the closing parenthesis. -/
  rest : List Char

/-- A text is cut at the first occurrence of a character in one way only. -/
theorem eq_and_eq_of_append_cons_eq {a : Char} {x y w z : List Char} (hx : a ∉ x) (hy : a ∉ y)
    (h : x ++ a :: w = y ++ a :: z) : x = y ∧ w = z := by
  -- both fronts end where the character first occurs
  have hlength : x.length = y.length := by
    have hfirst := congrArg (List.idxOf a) h
    rwa [List.idxOf_append_of_notMem hx, List.idxOf_append_of_notMem hy, List.idxOf_cons_self,
      List.idxOf_cons_self] at hfirst
  obtain ⟨rfl, hbehind⟩ := List.append_inj h hlength
  exact ⟨rfl, List.tail_eq_of_cons_eq hbehind⟩

namespace Occurrence

variable {o : Occurrence} {s : List Char} {d : Signature}

/-- The text from the signature on. -/
def onset (o : Occurrence) : List Char := o.heading ++ '(' :: (o.body ++ ')' :: o.rest)

/-- **The parts of the text `s` at the signature `d`**: it is found behind `before` and not earlier, and
    its parentheses are the first one that opens from there on and the nearest one that closes. -/
structure IsOf (o : Occurrence) (s : List Char) (d : Signature) : Prop where
  /-- The parts make up the text. -/
  text : s = o.before ++ o.onset
  /-- The signature is there, and ends behind the closing parenthesis. -/
  found : signature? o.onset = some (d, o.rest)
  /-- None begins before it. -/
  first : ∀ j < o.before.length, signature? (s.drop j) = none
  /-- The first parenthesis from there on is the one that opens the list. -/
  opens : '(' ∉ o.heading
  /-- The nearest one that closes is the one that ends it. -/
  closes : ')' ∉ o.body

/-- **The parts are those of the reading**: its parentheses are the same. -/
theorem IsOf.exists_reading (h : o.IsOf s d) :
    ∃ ρ : Reading, ρ.Heads o.heading ∧ ρ.body = o.body ∧ ρ.signature = d := by
  obtain ⟨ρ, ⟨hbody, heading, hhead, htext⟩, hd⟩ := signature?_eq_some_iff.mp h.found
  -- the heading of a reading holds no opening parenthesis and its body no closing one, like the parts
  obtain ⟨rfl, hbehind⟩ := eq_and_eq_of_append_cons_eq h.opens hhead.paren_notMem htext
  obtain ⟨hbody', -⟩ := eq_and_eq_of_append_cons_eq h.closes hbody hbehind
  exact ⟨ρ, hhead, hbody'.symm, hd⟩

/-- The name is the whole word before the parenthesis. -/
theorem IsOf.name_eq (h : o.IsOf s d) : d.name.toList = lastWord o.heading := by
  obtain ⟨ρ, ⟨-, hname, lead, b, -, hb, hheading⟩, -, rfl⟩ := h.exists_reading
  have hbefore : StopsBack isWordChar (lead ++ ρ.returnType ++ b) :=
    hb.stopsBack_append fun _ => isWordChar_of_isBlank
  rw [hheading, lastWord, hname.rtakeWhile_append hbefore]
  exact String.toList_ofList

/-- The parameters are those of the text between the parentheses. -/
theorem IsOf.params_eq (h : o.IsOf s d) : d.params = paramsIn o.body := by
  obtain ⟨ρ, -, hbody, rfl⟩ := h.exists_reading
  rw [← hbody]
  rfl

/-- **A text holds a signature where it has such parts.** -/
theorem findSignature?_eq_some_iff_isOf : findSignature? s = some d ↔ ∃ o : Occurrence, o.IsOf s d := by
  rw [findSignature?_eq_some_iff]
  constructor
  · rintro ⟨i, rest, hfound, hfirst⟩
    obtain ⟨ρ, ⟨hbody, heading, hhead, htext⟩, -⟩ := signature?_eq_some_iff.mp hfound
    refine ⟨⟨s.take i, heading, ρ.body, rest⟩, ?_, ?_, ?_, hhead.paren_notMem, hbody⟩
    · exact (List.take_append_drop i s).symm.trans (congrArg (s.take i ++ ·) htext)
    · exact (congrArg signature? htext).symm.trans hfound
    · exact fun j hj => hfirst j (Nat.lt_of_lt_of_le hj (List.length_take_le i s))
  · rintro ⟨o, h⟩
    refine ⟨o.before.length, o.rest, ?_, h.first⟩
    rw [h.text, List.drop_left]
    exact h.found

end Occurrence

/-- **The parameters are those between the parentheses.** A text is accepted where it has parts of a
    signature; the name is then the word before the parenthesis, and the parameters are those of the text
    between it and the nearest closing one. Read up to a closing parenthesis, any text without one before
    it gives the parameters that it has alone, and what is left begins with that parenthesis. -/
theorem params_enclosed :
    (∀ (s : String) (d : Signature),
        Signature.parse s = .ok d ↔ ∃ o : Occurrence, o.IsOf s.toList d) ∧
      (∀ (s : List Char) (d : Signature) (o : Occurrence), o.IsOf s d →
        d.name.toList = lastWord o.heading ∧ d.params = paramsIn o.body) ∧
      ∀ body rest : List Char, ')' ∉ body →
        paramsUntil (· == ')') (body ++ ')' :: rest) = (paramsIn body, ')' :: rest) := by
  refine ⟨?_, fun s d o h => ⟨h.name_eq, h.params_eq⟩,
    fun body rest hbody => paramsUntil_append_closing hbody⟩
  intro s d
  rw [parse_eq_ok_iff]
  exact Occurrence.findSignature?_eq_some_iff_isOf

theorem params_enclosed_nested :
    Occurrence.IsOf ⟨"(".toList, "int f".toList, "a(b c,(T x".toList, " y z)".toList⟩
        "(int f(a(b c,(T x) y z)".toList ⟨none, "int", "f", [⟨"b", "c"⟩, ⟨"T", "x"⟩]⟩ ∧
      [⟨"b", "c"⟩, ⟨"T", "x"⟩] = paramsIn "a(b c,(T x".toList ∧
      paramsUntil (· == ')') ("a(b c,(T x".toList ++ ')' :: " y z)".toList) =
        (paramsIn "a(b c,(T x".toList, ')' :: " y z)".toList) := by
  have hof : Occurrence.IsOf ⟨"(".toList, "int f".toList, "a(b c,(T x".toList, " y z)".toList⟩
      "(int f(a(b c,(T x) y z)".toList ⟨none, "int", "f", [⟨"b", "c"⟩, ⟨"T", "x"⟩]⟩ := by
    refine ⟨rfl, by decide +kernel, ?_, by decide, by decide⟩
    intro j hj
    obtain rfl : j = 0 := Nat.lt_one_iff.mp hj
    decide +kernel
  exact ⟨hof, (params_enclosed.2.1 _ _ _ hof).2, params_enclosed.2.2 _ _ (by decide)⟩

end MethodSig
