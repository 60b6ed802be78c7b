import Mathlib.Tactic.Common

/-!
# Writing in blocks

A writer that gathers items one by one and hands them on in blocks of a fixed size; what is left is
handed on at the end.  If the sink takes two writes as one, blocks make no difference: `push_flush`.
-/

namespace Blocks

variable {m : Type → Type} [Monad m] {σ β : Type}

/-- A sink and the items not yet written to it. -/
structure Writer (σ β : Type) where
  sink : σ
  pending : List β

def Writer.push (size : Nat) (write : σ → List β → m σ) (blocks : Writer σ β) (item : β) :
    m (Writer σ β) :=
  let pending := blocks.pending ++ [item]
  if pending.length = size then do
    let sink ← write blocks.sink pending
    pure ⟨sink, []⟩
  else pure ⟨blocks.sink, pending⟩

def Writer.flush (write : σ → List β → m σ) (blocks : Writer σ β) : m σ :=
  if blocks.pending = [] then pure blocks.sink else write blocks.sink blocks.pending

/-- The sink may be written to in pieces. -/
structure Concatenates (write : σ → List β → m σ) : Prop where
  nil : ∀ sink, write sink [] = pure sink
  append : ∀ sink items more,
    write sink (items ++ more) = write sink items >>= fun sink => write sink more

variable {write : σ → List β → m σ}

theorem flush_eq (h : Concatenates write) (blocks : Writer σ β) :
    blocks.flush write = write blocks.sink blocks.pending := by
  unfold Writer.flush
  split
  · rename_i hempty
    rw [hempty, h.nil]
  · rfl

/-- Writing item by item writes what is pending and all items at once. -/
theorem push_flush [LawfulMonad m] (h : Concatenates write) (size : Nat) (blocks : Writer σ β)
    (items : List β) : (items.foldlM (Writer.push size write) blocks >>= Writer.flush write) =
      write blocks.sink (blocks.pending ++ items) := by
  induction items generalizing blocks with
  | nil => rw [List.foldlM_nil, pure_bind, flush_eq h, List.append_nil]
  | cons item rest ih =>
    have hsplit : blocks.pending ++ item :: rest = blocks.pending ++ [item] ++ rest := by simp
    rw [List.foldlM_cons, bind_assoc, hsplit]
    by_cases hfull : (blocks.pending ++ [item]).length = size
    · have hpush : Writer.push size write blocks item =
          write blocks.sink (blocks.pending ++ [item]) >>= fun sink => pure ⟨sink, []⟩ :=
        if_pos hfull
      rw [hpush, h.append _ (blocks.pending ++ [item]), bind_assoc]
      congr 1
      ext sink
      rw [pure_bind, ih, List.nil_append]
    · have hpush : Writer.push size write blocks item =
          pure ⟨blocks.sink, blocks.pending ++ [item]⟩ := if_neg hfull
      rw [hpush, pure_bind, ih]

/-- Some items may be written later. -/
theorem push_write [LawfulMonad m] (h : Concatenates write) (size : Nat) (blocks : Writer σ β)
    (items more : List β) : (items.foldlM (Writer.push size write) blocks >>= fun blocks =>
      write blocks.sink (blocks.pending ++ more)) =
        write blocks.sink (blocks.pending ++ (items ++ more)) := by
  rw [← push_flush h size blocks (items ++ more), List.foldlM_append, bind_assoc]
  congr 1
  ext blocks
  rw [push_flush h]

end Blocks
