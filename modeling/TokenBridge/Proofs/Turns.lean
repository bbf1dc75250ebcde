namespace TokenBridge

variable {Turn : Type}

theorem split_concat {turns earlier later : List Turn} {t last : Turn}
    (h : turns ++ [last] = earlier ++ t :: later) :
    (turns = earlier ∧ last = t ∧ later = []) ∨
      ∃ init, later = init ++ [last] ∧ turns = earlier ++ t :: init := by
  rcases later.eq_nil_or_concat with rfl | ⟨init, last', rfl⟩
  · obtain ⟨hturns, hlast⟩ := List.append_inj' h rfl
    exact .inl ⟨hturns, (List.cons.inj hlast).1, rfl⟩
  · have hinit : turns ++ [last] = (earlier ++ t :: init) ++ [last'] := by simpa using h
    obtain ⟨hturns, hlast⟩ := List.append_inj' hinit rfl
    rw [(List.cons.inj hlast).1]
    exact .inr ⟨init, List.concat_eq_append, hturns⟩

end TokenBridge
