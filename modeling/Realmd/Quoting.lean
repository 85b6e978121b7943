import Mathlib.Data.List.Basic
import Mathlib.Data.List.Forall2
import Mathlib.Data.List.ReduceOption
set_option autoImplicit false

namespace Quoting

/-- How quotations are written: between two quotes, where a mark gives the character after
it another meaning, and a doubled quote is a quote. -/
structure Style (α : Type) where
  quote : α
  mark : α
  meaning : α → α
  quote_ne_mark : quote ≠ mark

inductive Token (α : Type) where
  | plain (a : α)
  | quoted (text : List α)
  deriving DecidableEq, Repr

/-- Where a reader stands: outside, inside a quotation, behind a mark, or behind a quote
that ends the quotation unless another quote follows. -/
inductive Place (α : Type) where
  | outside
  | inside (text : List α)
  | marked (text : List α)
  | closing (text : List α)

variable {α : Type}

inductive Spells (st : Style α) : List α → List α → Prop where
  | nil : Spells st [] []
  | plain {a : α} {written meant : List α} (hquote : a ≠ st.quote) (hmark : a ≠ st.mark)
      (h : Spells st written meant) : Spells st (a :: written) (a :: meant)
  | marked {a : α} {written meant : List α} (h : Spells st written meant) :
      Spells st (st.mark :: a :: written) (st.meaning a :: meant)

variable {st : Style α} {written meant : List α}

theorem Spells.append {written' meant' : List α} (h : Spells st written meant)
    (h' : Spells st written' meant') : Spells st (written ++ written') (meant ++ meant') := by
  induction h with
  | nil => exact h'
  | plain hquote hmark _ ih => exact .plain hquote hmark ih
  | marked _ ih => exact .marked ih

theorem Spells.flatMap {f : α → List α} (hf : ∀ a, Spells st (f a) [a]) (text : List α) :
    Spells st (text.flatMap f) text := by
  induction text with
  | nil => exact .nil
  | cons a text ih => simpa using (hf a).append ih

theorem Spells.self {text : List α} (hquote : st.quote ∉ text) (hmark : st.mark ∉ text) :
    Spells st text text := by
  induction text with
  | nil => exact .nil
  | cons a text ih =>
    simp only [List.mem_cons,not_or] at hquote hmark
    exact .plain (Ne.symm hquote.1) (Ne.symm hmark.1) (ih hquote.2 hmark.2)

section
variable [DecidableEq α] (st)

def scan : Place α → List α → Option (List (Token α))
  | .outside, [] => some []
  | .inside _, [] | .marked _, [] => none
  | .closing text, [] => some [.quoted text]
  | .outside, a :: rest =>
      if a = st.quote then scan (.inside []) rest
      else (scan .outside rest).map (.plain a :: ·)
  | .inside text, a :: rest =>
      if a = st.mark then scan (.marked text) rest
      else if a = st.quote then scan (.closing text) rest
      else scan (.inside (text ++ [a])) rest
  | .marked text, a :: rest => scan (.inside (text ++ [st.meaning a])) rest
  | .closing text, a :: rest =>
      if a = st.quote then scan (.inside (text ++ [st.quote])) rest
      else (scan .outside rest).map fun tokens => .quoted text :: .plain a :: tokens

def tokens (text : List α) : Option (List (Token α)) := scan st .outside text

variable {st}

theorem Spells.reads (h : Spells st written meant) (text rest : List α) :
    scan st (.inside text) (written ++ rest) = scan st (.inside (text ++ meant)) rest := by
  induction h generalizing text with
  | nil => simp
  | plain hquote hmark _ ih => simp [scan,hquote,hmark,ih]
  | marked _ ih => simp [scan,ih]

theorem scan_closing {text rest : List α} (h : rest.head? ≠ some st.quote) :
    scan st (.closing text) rest = (scan st .outside rest).map (.quoted text :: ·) := by
  cases rest with
  | nil => rfl
  | cons a rest =>
    have ha : a ≠ st.quote := by simpa using h
    simp [scan,ha,Function.comp_def]

theorem Spells.quotation (h : Spells st written meant) {rest : List α}
    (hrest : rest.head? ≠ some st.quote) :
    scan st .outside (st.quote :: (written ++ st.quote :: rest)) =
      (scan st .outside rest).map (.quoted meant :: ·) := by
  have hread := h.reads [] (st.quote :: rest)
  simp only [scan,if_true,hread,if_neg st.quote_ne_mark,List.nil_append]
  exact scan_closing hrest

theorem scan_plain {text : List α} (h : st.quote ∉ text) (rest : List α) :
    scan st .outside (text ++ rest) =
      (scan st .outside rest).map (text.map .plain ++ ·) := by
  induction text with
  | nil => simp
  | cons a text ih =>
    simp only [List.mem_cons,not_or] at h
    have ha : a ≠ st.quote := Ne.symm h.1
    simp [scan,ha,ih h.2,Function.comp_def]

end

/-- A text with places for arguments. -/
abbrev Format (α : Type) := List (Option α)

def Style.lift (st : Style α) : Style (Option α) where
  quote := some st.quote
  mark := some st.mark
  meaning := Option.map st.meaning
  quote_ne_mark := by simpa using st.quote_ne_mark

def Format.print : Format α → List (List α) → List α
  | [], _ => []
  | some a :: format, args => a :: print format args
  | none :: format, args => args.headD [] ++ print format args.tail

/-- How a place is written: on its own, or as all of a quotation. -/
inductive Hole where
  | bare
  | quoted
  deriving DecidableEq, Repr

def Hole.Fits (st : Style α) : Hole → List α × List α → Prop
  | .bare, arg => st.quote ∉ arg.1 ∧ arg.1 = arg.2
  | .quoted, arg => Spells st arg.1 arg.2

theorem print_constant {text : Format α} (h : ∀ piece ∈ text, piece.isSome) (rest : Format α)
    (args : List (List α)) :
    Format.print (text ++ rest) args = text.reduceOption ++ Format.print rest args := by
  induction text with
  | nil => rfl
  | cons piece text ih =>
    obtain ⟨a,rfl⟩ := Option.isSome_iff_exists.mp (h piece (by simp))
    simp [Format.print,List.reduceOption_cons_of_some,ih fun p hp => h p (by simp [hp])]

section
variable [DecidableEq α] (st : Style α)

def Token.hole : Token (Option α) → Option Hole
  | .plain piece => if piece = none then some .bare else none
  | .quoted text => if text = [none] then some .quoted else none

/-- What the tokens of a format become when its arguments mean these texts. -/
def fill : List (Token (Option α)) → List (List α) → List (Token α)
  | [], _ => []
  | .plain (some a) :: ts, values => .plain a :: fill ts values
  | .plain none :: ts, values => (values.headD []).map .plain ++ fill ts values.tail
  | .quoted text :: ts, values =>
      if text = [none] then .quoted (values.headD []) :: fill ts values.tail
      else .quoted text.reduceOption :: fill ts values

def Token.text : Token (Option α) → Format α
  | .plain piece => [piece]
  | .quoted text => some st.quote :: (text ++ [some st.quote])

def properQuotation (text : Format α) : Bool :=
  text == [none] ||
    text.all fun piece => piece.isSome && piece != some st.quote && piece != some st.mark

def startsPlain : List (Token (Option α)) → Bool
  | [] | .plain (some _) :: _ => true
  | _ => false

/-- Tokens that can be told apart: a character stands behind every quotation. -/
def proper : List (Token (Option α)) → Bool
  | [] => true
  | .plain piece :: ts => piece != some st.quote && proper ts
  | .quoted text :: ts => properQuotation st text && startsPlain ts && proper ts

def Format.wellQuoted (format : Format α) : Bool :=
  match tokens st.lift format with
  | none => false
  | some ts => ts.flatMap (Token.text st) == format && proper st ts

variable {st} {ts : List (Token (Option α))} {args : List (List α × List α)}

theorem spells_constant {text : Format α}
    (h : (text.all fun piece =>
      piece.isSome && piece != some st.quote && piece != some st.mark) = true) :
    Spells st text.reduceOption text.reduceOption := by
  rw [List.all_eq_true] at h
  have hmem : ∀ a ∈ text.reduceOption, a ≠ st.quote ∧ a ≠ st.mark := by
    intro a ha
    have ha' := h (some a) (List.reduceOption_mem_iff.mp ha)
    simpa using ha'
  exact .self (fun hq => (hmem _ hq).1 rfl) fun hm => (hmem _ hm).2 rfl

theorem print_head (hstart : startsPlain ts = true) (hproper : proper st ts = true)
    (args : List (List α)) :
    (Format.print (ts.flatMap (Token.text st)) args).head? ≠ some st.quote := by
  match ts with
  | [] => simp [Format.print]
  | .plain (some a) :: ts =>
    simp only [proper,Bool.and_eq_true,bne_iff_ne] at hproper
    simpa [Token.text,Format.print] using hproper.1

theorem scan_print (hproper : proper st ts = true)
    (hargs : List.Forall₂ (Hole.Fits st) (ts.filterMap Token.hole) args) :
    tokens st (Format.print (ts.flatMap (Token.text st)) (args.map (·.1))) =
      some (fill ts (args.map (·.2))) := by
  induction ts generalizing args with
  | nil => rfl
  | cons t ts ih =>
    rw [List.flatMap_cons]
    match t with
    | .plain (some a) =>
      simp only [proper,Bool.and_eq_true,bne_iff_ne,ne_eq,Option.some.injEq] at hproper
      have hrest := ih hproper.2 hargs
      simp only [tokens] at hrest ⊢
      simp [Token.text,Format.print,scan,hproper.1,hrest,fill]
    | .plain none =>
      simp only [proper,Bool.and_eq_true] at hproper
      cases hargs with
      | @cons _ arg _ args hfit hargs =>
        have hrest := ih hproper.2 hargs
        simp only [tokens] at hrest ⊢
        obtain ⟨written,meant⟩ := arg
        obtain ⟨hquote,heq⟩ := hfit
        simp only at hquote heq
        simp [Token.text,Format.print,scan_plain hquote,hrest,fill,← heq]
    | .quoted text =>
      simp only [proper,Bool.and_eq_true] at hproper
      obtain ⟨⟨htext,hstart⟩,hproper⟩ := hproper
      by_cases hplace : text = [none]
      · subst hplace
        cases hargs with
        | @cons _ arg _ args hfit hargs =>
          have hrest := ih hproper hargs
          have hspells : Spells st arg.1 arg.2 := hfit
          have hquotation := hspells.quotation (print_head hstart hproper (args.map (·.1)))
          simp only [tokens] at hrest ⊢
          simp [Token.text,Format.print,hquotation,hrest,fill]
      · have hconstant := htext
        simp only [properQuotation,beq_iff_eq,hplace,Bool.or_eq_true,false_or] at hconstant
        have hsome : ∀ piece ∈ text, piece.isSome := by
          intro piece hp
          have hpiece := List.all_eq_true.mp hconstant piece hp
          simp only [Bool.and_eq_true] at hpiece
          exact hpiece.1.1
        have hhole : Token.hole (.quoted text) = none := if_neg hplace
        rw [List.filterMap_cons_none hhole] at hargs
        have hrest := ih hproper hargs
        have hquotation := (spells_constant hconstant).quotation
          (print_head hstart hproper (args.map (·.1)))
        simp only [tokens] at hrest ⊢
        simp [Token.text,Format.print,print_constant hsome,hquotation,hrest,fill,hplace]

/-- Whatever its arguments mean, the print of a format reads as the format does, with
each argument as one quotation or one run of characters in its place. -/
theorem Format.reads {format : Format α} (hts : tokens st.lift format = some ts)
    (hformat : format.wellQuoted st = true)
    (hargs : List.Forall₂ (Hole.Fits st) (ts.filterMap Token.hole) args) :
    tokens st (format.print (args.map (·.1))) = some (fill ts (args.map (·.2))) := by
  rw [Format.wellQuoted,hts] at hformat
  simp only [Bool.and_eq_true,beq_iff_eq] at hformat
  obtain ⟨hwritten,hproper⟩ := hformat
  rw [← hwritten]
  exact scan_print hproper hargs

end

end Quoting
