import SchemaPlan.Proofs.TypeAgreement

/-!
# Stored types are understood

Replay writes the storage type of a kind into the live schema, and the next
comparison reads it from there. Two facts make the circle close: a storage
type is canonical already, and a column stored for a kind agrees with the
kind. The first holds because a kind is called by one word
(`TypeName.nameWords_kind`), and what one word canonicalises to is canonical; the
kinds that are stored under another name are stored under a known one. The
second follows from it.
-/

namespace SchemaPlan.TypeName

/-- The storage type of a kind is its own canonical name. A column that was
made by a replay so has a type like one that a database reports. -/
@[simp] theorem canonical_storage (kind : ColumnKind) :
    canonical (storage kind) = storage kind := by
  unfold storage
  dsimp only
  split
  · rename_i row found
    have known : ∀ row ∈ referenceStorage, row.2 ∈ knownNames := by decide
    exact (canonical_of_known (known row (List.mem_of_find?_eq_some found))).2
  · refine canonical_canonical_of_unstacked fun stacked => ?_
    rw [nameWords_kind] at stacked
    exact absurd stacked.1 (by decide : ¬ 3 ≤ 1)

/-- **A kind agrees with the type its columns are stored as**, so the columns
of a table that was created are found to have the declared types. -/
@[simp] theorem agrees_storage (kind : ColumnKind) : agrees kind (storage kind) = true :=
  agrees_iff_storage.2 (.inl (canonical_storage kind))

/-- The kind found for a type is stored as that type. It need not be the kind
that was declared: several may be stored so. -/
theorem storage_of_kindStoredAs? {type : String} {kind : ColumnKind}
    (h : kindStoredAs? type = some kind) : storage kind = type := by
  simpa using List.find?_some h

end SchemaPlan.TypeName
