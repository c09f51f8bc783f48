/-!
# Orders of keys

The keys of a sorted map are compared by a strict order in which any two
different keys are comparable. Strings and byte strings have such orders, and
lists inherit them item by item.
-/

namespace XmlSupport

class KeyOrder (κ : Type) [LT κ] : Prop where
  trans {a b c : κ} : a < b → b < c → a < c
  irrefl (a : κ) : ¬a < a
  eq_of_not_lt {a b : κ} : ¬a < b → ¬b < a → a = b

namespace KeyOrder

instance instString : KeyOrder String where
  trans := String.lt_trans
  irrefl := String.lt_irrefl
  eq_of_not_lt h h' := String.le_antisymm (String.not_lt.1 h') (String.not_lt.1 h)

instance instByte : KeyOrder UInt8 where
  trans := UInt8.lt_trans
  irrefl := UInt8.lt_irrefl
  eq_of_not_lt h h' := UInt8.le_antisymm (UInt8.not_lt.1 h') (UInt8.not_lt.1 h)

instance instChar : KeyOrder Char where
  trans := Char.lt_trans
  irrefl := Char.lt_irrefl
  eq_of_not_lt h h' := Char.le_antisymm (Char.not_lt.1 h') (Char.not_lt.1 h)

variable {κ : Type} [LT κ] [KeyOrder κ]

instance instList : KeyOrder (List κ) where
  trans h h' := @List.lt_trans κ _ ⟨trans⟩ _ _ _ h h'
  irrefl as := @List.lt_irrefl κ _ ⟨irrefl⟩ as
  eq_of_not_lt h h' :=
    @List.le_antisymm κ _ ⟨fun _ _ => eq_of_not_lt⟩ _ _ (List.not_lt.1 h') (List.not_lt.1 h)

end KeyOrder
end XmlSupport
