import InfoFlow.Proofs.Datalog.RoundTrip

namespace InfoFlow.Datalog

/-- A text that says the given statements, in front of any other text. -/
def Says (text : String) (list : List Statement) : Prop :=
  ∃ ts, Lexes text.toList ts ∧ Reads ts list

namespace Says

theorem append {s t : String} {list more : List Statement} (hs : Says s list) (ht : Says t more) :
    Says (s ++ t) (list ++ more) := by
  obtain ⟨ss, hss, hlist⟩ := hs
  obtain ⟨ts, hts, hmore⟩ := ht
  exact ⟨ss ++ ts, by simpa using hss.append hts, hlist.append hmore⟩

theorem silent {text : String} (h : Lexes text.toList []) : Says text [] :=
  ⟨[], h, Reads.nil⟩

theorem newline : Says "\n" [] :=
  silent (.blank (by decide))

/-- A fact with the dot behind it. -/
theorem fact {a : Atom} (h : a.Readable) : Says (a.render ++ ".") [.fact a] := by
  exact ⟨_, by simpa using h.lexes.append Lexes.dot, Reads.fact h.args_ne_nil⟩

theorem rule {r : Rule} (h : r.Readable) : Says r.render [.rule r.clause] :=
  ⟨_, h.lexes, Reads.rule h⟩

theorem read_eq {text : String} {list : List Statement} (h : Says text list) :
    read text = some list := by
  obtain ⟨ts, hts, hlist⟩ := h
  exact Datalog.read_eq hts hlist

/-- The declaration of a relation with one column. -/
theorem declaration {relation column type : String} (hrelation : IsName relation)
    (hcolumn : IsName column) (htype : IsName type) :
    Says (".decl " ++ relation ++ "(" ++ column ++ ": " ++ type ++ ")")
      [.declaration relation [(column, type)]] := by
  have hdecl : IsName "decl" := by simp [IsName, isNameChar]
  have hcolumns := Lexes.opening.append (hcolumn.lexes (by decide)
    (Lexes.colon_blank.append (htype.lexes (by decide) Lexes.closing)))
  have hall := Lexes.dot.append (hdecl.lexes (by decide)
    (Lexes.space.append (hrelation.lexes (by decide) hcolumns)))
  exact ⟨_, by simpa using hall, Reads.declaration relation column type⟩

/-- Lines one after the other say what each of them says. -/
theorem join {α : Type} {line : α → String} {means : α → List Statement} {items : List α}
    (h : ∀ a ∈ items, Says (line a) (means a)) :
    Says (String.join (items.map line)) (items.flatMap means) := by
  induction items with
  | nil => exact silent .nil
  | cons a rest ih =>
    have hall := (h a (by simp)).append (ih fun b hb => h b (by simp [hb]))
    simpa [String.join_cons] using hall

end Says

end InfoFlow.Datalog
