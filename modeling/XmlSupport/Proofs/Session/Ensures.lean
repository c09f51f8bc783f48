import XmlSupport.Session.Interaction

/-!
# What holds whatever is replied

`Ensures P i` says that the requests and the end of every course of `i` satisfy
`P`. Every request may get every reply of its kind, also a second time, so the
courses include those of an editor or a server whose replies change on the way.
`ensures_run` brings the statement back to a run with given answers, and
`ensures_bind` follows a sequence from its first part to the rest.
-/

namespace XmlSupport.Session.Interaction

variable {α β : Type}

def Ensures (P : List Request → Except Error α → Prop) : Interaction α → Prop
  | .done a => P [] (.ok a)
  | .failed e => P [] (.error e)
  | .note _ next => next.Ensures P
  | .ask r next => ∀ reply, (next reply).Ensures fun requests result => P (r :: requests) result

theorem ensures_run {P : List Request → Except Error α → Prop} {i : Interaction α}
    (h : i.Ensures P) (answers : Answers) : P (i.run answers).requests (i.run answers).result := by
  induction i generalizing P with
  | done a => exact h
  | failed e => exact h
  | note entry next ih => exact ih h
  | ask r next ih => exact ih (answers r) (h (answers r))

theorem Ensures.mono {P Q : List Request → Except Error α → Prop} {i : Interaction α}
    (h : i.Ensures P) (hPQ : ∀ requests result, P requests result → Q requests result) :
    i.Ensures Q := by
  induction i generalizing P Q with
  | done a => exact hPQ _ _ h
  | failed e => exact hPQ _ _ h
  | note entry next ih => exact ih h hPQ
  | ask r next ih =>
    intro reply
    exact ih reply (h reply) fun requests result => hPQ (r :: requests) result

/-- A sequence ends with the first part's error or goes on from its value. -/
theorem ensures_bind {P : List Request → Except Error β → Prop} {i : Interaction α}
    {f : α → Interaction β} :
    (i >>= f).Ensures P ↔ i.Ensures fun first result =>
      match result with
      | .ok a => (f a).Ensures fun rest => P (first ++ rest)
      | .error e => P first (.error e) := by
  induction i generalizing P with
  | done a => exact Iff.rfl
  | failed e => exact Iff.rfl
  | note entry next ih => exact ih
  | ask r next ih => exact forall_congr' fun reply => ih reply

end XmlSupport.Session.Interaction
