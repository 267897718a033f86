import FirmwareTrace.Proofs.Elf.Extension

/-! # Symbols by their position

The symbols of a container are those at the positions of its symbol table, in order and
without the null symbol at zero, `getElem?_symbols`.
-/
namespace FirmwareTrace.Elf

open Bytes

/-- The symbol at a position of the symbol table, where the null symbol is at zero. -/
def Container.symbolAt? (container : Container) (position : Nat) : Option Symbol :=
  (symbolTable? container.bytes container.sections symbolTableKind).bind fun table =>
    readSymbol? table.1 table.2 position

/-- A function with values at consecutive positions, and at none behind them, gives these
values in order. -/
theorem getElem?_filterMap_range' {α : Type} {f : Nat → Option α} (count first i : Nat)
    (hin : ∀ p, first ≤ p → p < first + count → ∃ a, f p = some a)
    (hout : ∀ p, first + count ≤ p → f p = none) :
    ((List.range' first count).filterMap f)[i]? = f (first + i) := by
  induction count generalizing first i with
  | zero => simp [hout (first + i) (Nat.le_add_right first i)]
  | succ count ih =>
    obtain ⟨a, ha⟩ := hin first (Nat.le_refl first) (by omega)
    rw [List.range'_succ, List.filterMap_cons_some ha]
    cases i with
    | zero => exact ha.symm
    | succ i =>
      rw [List.getElem?_cons_succ, ih (first + 1) i (fun p hle hp => hin p (by omega) (by omega))
        (fun p hp => hout p (by omega))]
      congr 1
      omega

theorem readSymbol?_of_le {data extended : ByteArray} {position : Nat}
    (h : data.size / symbolSize ≤ position) : readSymbol? data extended position = none := by
  have hsize : ¬ position * symbolSize + symbolSize ≤ data.size := by
    unfold symbolSize at h ⊢
    omega
  rw [readSymbol?, slice?, if_neg hsize]
  rfl

theorem exists_readSymbol?_of_lt {data extended : ByteArray} {position : Nat}
    (h : position < data.size / symbolSize) :
    ∃ symbol, readSymbol? data extended position = some symbol := by
  have hsize : position * symbolSize + symbolSize ≤ data.size := by
    unfold symbolSize at h ⊢
    omega
  rw [readSymbol?, slice?, if_pos hsize]
  exact ⟨_, rfl⟩

theorem Container.getElem?_symbols {bytes : ByteArray} {container : Container}
    (h : Container.read? bytes = some container) (i : Nat) :
    container.symbols[i]? = container.symbolAt? (i + 1) := by
  obtain ⟨⟨data, extended⟩, dynamic, htable, -, hcontainer⟩ :=
    (Container.ofSections?_eq_some_iff _).1 (Container.ofSections?_of_read? h)
  have hat : container.symbolAt? (i + 1) = readSymbol? data extended (i + 1) := by
    rw [Container.symbolAt?, Container.bytes_of_read? h, htable]
    rfl
  have hsymbols : container.symbols
      = ((List.range (data.size / symbolSize)).drop 1).filterMap (readSymbol? data extended) := by
    rw [← hcontainer]
  rw [hat, hsymbols, List.range_eq_range', List.drop_range', Nat.add_comm i 1]
  apply getElem?_filterMap_range'
  · intro p hle hp
    exact exists_readSymbol?_of_lt (by omega)
  · intro p hp
    exact readSymbol?_of_le (by omega)

theorem Container.value_lt {container : Container} {position : Nat} {symbol : Symbol}
    (h : container.symbolAt? position = some symbol) : symbol.value < 0x100000000 := by
  obtain ⟨table, -, hread⟩ := Option.bind_eq_some_iff.1 h
  obtain ⟨entry, -, rfl⟩ := Option.map_eq_some_iff.1 hread
  have hlt := ofLittleEndian_lt ((entry.drop 4).take 4)
  rw [Nat.one_shiftLeft] at hlt
  have hlength : 8 * ((entry.drop 4).take 4).length ≤ 32 :=
    Nat.mul_le_mul_left 8 (List.length_take_le 4 _)
  exact Nat.lt_of_lt_of_le hlt (Nat.pow_le_pow_right (by decide) hlength)

end FirmwareTrace.Elf
