import Smime.X690.Der

/-! Values that say the same: the components of every SET in any order. They have
one DER encoding. -/
namespace X690
namespace Value

/-- The same value up to the order of the components of its SETs. -/
inductive SameSets : Value → Value → Prop
  | prim {tag : Tag} {h : tag.constructed = false} {content : Octets} :
      SameSets (.prim tag h content) (.prim tag h content)
  | cons {tag : Tag} {hc : tag.constructed = true} {hw : StringType.ofTag? tag = none}
      {children middle others : List Value} (inner : List.Forall₂ SameSets children middle)
      (order : SentAs tag middle others) :
      SameSets (.cons tag hc hw children) (.cons tag hc hw others)

/-- The order of the components is not seen in DER. -/
theorem SameSets.der_eq {value other : Value} (h : SameSets value other) :
    value.der = other.der := by
  induction value generalizing other with
  | prim tag primitive content =>
      cases h
      rfl
  | cons tag constructed whole children ih =>
      cases h with
      | @cons _ _ _ _ middle others inner order =>
          have hInner : children.map der = middle.map der := by
            clear order
            induction inner with
            | nil => rfl
            | cons hFirst _ ihRest =>
                rw [List.map_cons, List.map_cons, ih _ List.mem_cons_self hFirst,
                  ihRest fun child hMem => ih child (List.mem_cons_of_mem _ hMem)]
          rw [der_cons, der_cons, hInner, order.map_der]

end Value
end X690
