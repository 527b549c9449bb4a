import Tablesmith.Proofs.Schema.Names

/-!
# Entries under texts

A dictionary is looked up by a text, which only equals a key that is the same
text.  What is put under a text is found there from then on.
-/

namespace Tablesmith

namespace Value

variable {entries : List (Value × Value)} {key name : String}

theorem lookupText?_cons (entry : Value × Value) :
    lookupText? (entry :: entries) name =
      if entry.1.text? = some name then some entry.2
      else lookupText? entries name := by
  unfold lookupText?
  by_cases isName : entry.1.text? = some name
  · rw [List.find?_cons_of_pos (by simpa using isName), if_pos isName]
    rfl
  · rw [List.find?_cons_of_neg (by simpa using isName), if_neg isName]

theorem lookupText?_append_singleton (value : Value) :
    lookupText? (entries ++ [(.text key, value)]) name =
      (lookupText? entries name).or
        (if key = name then some value else none) := by
  induction entries with
  | nil =>
      rw [List.nil_append, lookupText?_cons]
      by_cases isName : key = name
      · simp [isName, text?, lookupText?]
      · simp [isName, text?]
  | cons entry rest inductionHypothesis =>
      rw [List.cons_append, lookupText?_cons, lookupText?_cons,
        inductionHypothesis]
      split
      · rfl
      · rfl

theorem lookupText?_replaced (value : Value) :
    lookupText?
        (entries.map fun e => if e.1 == .text key then (e.1, value) else e)
        name =
      if name = key then (lookupText? entries key).map fun _ => value
      else lookupText? entries name := by
  induction entries with
  | nil => simp [lookupText?]
  | cons entry rest inductionHypothesis =>
      rw [List.map_cons, lookupText?_cons, inductionHypothesis,
        lookupText?_cons, lookupText?_cons, beq_text_eq]
      by_cases isKey : entry.1.text? = some key
      · by_cases same : name = key
        · simp [isKey, same]
        · simp [isKey, same, Ne.symm same]
      · by_cases same : name = key
        · simp [isKey, same]
        · simp [isKey, same]

theorem any_beq_text :
    (entries.any fun e => e.1 == .text key) =
      (lookupText? entries key).isSome := by
  unfold lookupText?
  rw [Option.isSome_map, List.isSome_find?]
  simp only [beq_text_eq]

/-- An entry that is put under a text is found there, and nothing else
changes. -/
theorem lookupText?_put (value : Value) :
    lookupText? (put entries (.text key) value) name =
      if name = key then some value else lookupText? entries name := by
  unfold put
  rw [any_beq_text]
  cases found : lookupText? entries key with
  | some old =>
      rw [Option.isSome_some, if_pos rfl, lookupText?_replaced, found]
      rfl
  | none =>
      rw [Option.isSome_none, if_neg Bool.false_ne_true,
        lookupText?_append_singleton]
      by_cases same : name = key
      · subst same
        simp [found]
      · simp [same, Ne.symm same]

theorem length_put (value : Value) :
    (put entries (.text key) value).length =
      if (lookupText? entries key).isSome then entries.length
      else entries.length + 1 := by
  unfold put
  rw [any_beq_text]
  split
  · rw [List.length_map]
  · rw [List.length_append, List.length_singleton]

end Value

end Tablesmith
