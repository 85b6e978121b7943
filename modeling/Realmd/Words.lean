import Mathlib.Data.List.TakeWhile
set_option autoImplicit false

namespace Words

variable {α : Type*} (sep : α → Bool)

/-- Skips the separators and takes what stands before the next one; the rest is left. -/
def next (text : List α) : Option (List α × List α) :=
  match text.dropWhile sep with
  | [] => none
  | a :: rest => some (a :: rest.takeWhile (!sep ·),rest.dropWhile (!sep ·))

/-- A part of a text without separators that no neighbour continues. -/
structure MaximalRun (text w before after : List α) : Prop where
  parts : text = before ++ w ++ after
  nonempty : w ≠ []
  plain : ∀ a ∈ w, sep a = false
  starts : ∀ a ∈ before.getLast?, sep a = true
  ends : ∀ a ∈ after.head?, sep a = true

def IsWord (text w : List α) : Prop := ∃ before after, MaximalRun sep text w before after

variable {sep}

theorem next_none {text : List α} (h : next sep text = none) : ∀ a ∈ text, sep a = true := by
  unfold next at h
  split at h
  · rename_i hskip
    simpa using List.dropWhile_eq_nil_iff.mp hskip
  · cases h

theorem head_dropWhile (p : α → Bool) (text : List α) :
    ∀ a ∈ (text.dropWhile p).head?, p a = false := by
  intro a ha
  have hne : text.dropWhile p ≠ [] := by
    intro hnil
    simp [hnil] at ha
  rw [List.head?_eq_some_head hne] at ha
  cases ha
  simpa using List.head_dropWhile_not p hne

theorem next_some {text w rest : List α} (h : next sep text = some (w,rest)) :
    ∃ blanks, (∀ a ∈ blanks, sep a = true) ∧ MaximalRun sep text w blanks rest := by
  unfold next at h
  split at h
  · cases h
  rename_i a tail hskip
  cases h
  have hhead : sep a = false := head_dropWhile sep text a (by simp [hskip])
  have hblanks : ∀ b ∈ text.takeWhile sep, sep b = true := fun b hb => List.mem_takeWhile_imp hb
  refine ⟨text.takeWhile sep,hblanks,?_,by simp,?_,?_,?_⟩
  · rw [List.append_assoc,List.cons_append,List.takeWhile_append_dropWhile,← hskip,
      List.takeWhile_append_dropWhile]
  · intro b hb
    rcases List.mem_cons.mp hb with rfl | hb
    · exact hhead
    · simpa using List.mem_takeWhile_imp hb
  · exact fun b hb => hblanks b (List.mem_of_getLast? hb)
  · intro b hb
    simpa using head_dropWhile _ tail b hb

theorem MaximalRun.rest_shorter {text w before after : List α}
    (h : MaximalRun sep text w before after) : after.length < text.length := by
  have hpos : 0 < w.length := List.length_pos_iff.mpr h.nonempty
  rw [h.parts,List.length_append,List.length_append]
  omega

theorem next_shorter {text w rest : List α} (h : next sep text = some (w,rest)) :
    rest.length < text.length := by
  obtain ⟨_,-,hrun⟩ := next_some h
  exact hrun.rest_shorter

variable (sep) in
def words (text : List α) : List (List α) :=
  match _h : next sep text with
  | none => []
  | some (w,rest) => w :: words rest
termination_by text.length
decreasing_by exact next_shorter _h

theorem words_none {text : List α} (h : next sep text = none) : words sep text = [] := by
  unfold words
  split
  · rfl
  · simp_all

theorem words_some {text w rest : List α} (h : next sep text = some (w,rest)) :
    words sep text = w :: words sep rest := by
  rw [words]
  split
  · simp_all
  · simp_all

theorem split_after (p : α → Bool) {front back before : List α} {a : α} {after : List α}
    (hfront : ∀ b ∈ front, p b = true) (ha : p a = false)
    (h : front ++ back = before ++ a :: after) :
    ∃ middle, before = front ++ middle ∧ back = middle ++ a :: after := by
  rcases List.append_eq_append_iff.mp h with ⟨middle,hbefore,hback⟩ | ⟨extra,hextra,hcons⟩
  · exact ⟨middle,hbefore,hback⟩
  · cases extra with
    | nil => exact ⟨[],by simpa using hextra.symm,by simpa using hcons.symm⟩
    | cons b extra =>
      obtain ⟨rfl,-⟩ := List.cons.inj hcons
      have hb := hfront a (by simp [hextra])
      simp [ha] at hb

theorem takeWhile_run {w rest : List α} (hw : ∀ a ∈ w, sep a = false)
    (hrest : ∀ a ∈ rest.head?, sep a = true) : (w ++ rest).takeWhile (!sep ·) = w := by
  rw [List.takeWhile_append_of_pos (by simpa using hw)]
  cases rest with
  | nil => simp
  | cons a rest => simp [hrest a rfl]

theorem run_unique {w w' rest rest' : List α} (hw : ∀ a ∈ w, sep a = false)
    (hw' : ∀ a ∈ w', sep a = false) (hrest : ∀ a ∈ rest.head?, sep a = true)
    (hrest' : ∀ a ∈ rest'.head?, sep a = true) (h : w ++ rest = w' ++ rest') : w = w' := by
  rw [← takeWhile_run hw hrest,h,takeWhile_run hw' hrest']

theorem MaximalRun.first_or_later {text w rest blanks v before after : List α}
    (hfirst : MaximalRun sep text w blanks rest) (hblanks : ∀ a ∈ blanks, sep a = true)
    (h : MaximalRun sep text v before after) :
    v = w ∨ ∃ before', MaximalRun sep rest v before' after := by
  obtain ⟨a,v',rfl⟩ := List.exists_cons_of_ne_nil h.nonempty
  have ha : sep a = false := h.plain a (by simp)
  have hboth : blanks ++ (w ++ rest) = before ++ a :: (v' ++ after) := by
    rw [← List.append_assoc,← hfirst.parts,h.parts]
    simp
  obtain ⟨middle,rfl,hword⟩ := split_after sep hblanks ha hboth
  rcases List.eq_nil_or_concat middle with rfl | ⟨middle',z,rfl⟩
  · exact .inl (run_unique h.plain hfirst.plain h.ends hfirst.ends (by simpa using hword.symm))
  · -- the separator before the run stands after the first run
    have hz : sep z = true := h.starts z (by simp)
    have hboth' : w ++ rest = middle' ++ z :: (a :: (v' ++ after)) := by simpa using hword
    obtain ⟨middle,-,hrest⟩ := split_after (!sep ·) (by simpa using hfirst.plain) (by simp [hz])
      hboth'
    exact .inr ⟨middle ++ [z],by simp [hrest],h.nonempty,h.plain,by simp [hz],h.ends⟩

theorem MaximalRun.later {text w rest blanks v before after : List α}
    (hfirst : MaximalRun sep text w blanks rest) (h : MaximalRun sep rest v before after) :
    MaximalRun sep text v (blanks ++ w ++ before) after := by
  refine ⟨by simp [hfirst.parts,h.parts],h.nonempty,h.plain,?_,h.ends⟩
  rcases List.eq_nil_or_concat before with rfl | ⟨before',z,rfl⟩
  · -- a run at the front of the rest would continue the first
    obtain ⟨a,v',rfl⟩ := List.exists_cons_of_ne_nil h.nonempty
    have hsep := hfirst.ends a (by simp [h.parts])
    have hplain := h.plain a (by simp)
    simp [hsep] at hplain
  · simpa using h.starts

theorem mem_words_iff {text v : List α} : v ∈ words sep text ↔ IsWord sep text v := by
  fun_induction words sep text with
  | case1 text h =>
    refine iff_of_false (by simp) ?_
    rintro ⟨before,after,hrun⟩
    obtain ⟨a,v',rfl⟩ := List.exists_cons_of_ne_nil hrun.nonempty
    have hsep := next_none h a (by simp [hrun.parts])
    have hplain := hrun.plain a (by simp)
    simp [hsep] at hplain
  | case2 text w rest h ih =>
    obtain ⟨blanks,hblanks,hfirst⟩ := next_some h
    rw [List.mem_cons,ih]
    constructor
    · rintro (rfl | ⟨before,after,hrun⟩)
      · exact ⟨blanks,rest,hfirst⟩
      · exact ⟨_,after,hfirst.later hrun⟩
    · rintro ⟨before,after,hrun⟩
      rcases hfirst.first_or_later hblanks hrun with rfl | ⟨before',hlater⟩
      · exact .inl rfl
      · exact .inr ⟨before',after,hlater⟩

end Words
