import FirmwareTrace.Proofs.Template.Arguments

/-! # Templates one after the other

A specification that has its letter is scanned the same way whatever follows it, so a template
that ends in no specification is rendered as it is alone, and what follows goes on with the
words that it left, `format_append`.
-/
namespace FirmwareTrace.Template

/-! ## Writing what was scanned -/

variable (args : Arguments)

/-- The run of text that a template starts with is copied. -/
theorem writeAll_pieces_takeWhile (cs : List Char) :
    let others := writeAll (pieces (cs.dropWhile (· != '%'))) args
    writeAll (pieces cs) args = (cs.takeWhile (· != '%') ++ others.1, others.2) := by
  cases cs with
  | nil => rfl
  | cons c rest =>
    by_cases h : c = '%'
    · subst h
      rfl
    · simp [pieces_text h, writeAll, Piece.write, h]

/-- Text is copied, whether or not the text behind it goes on. -/
theorem writeAll_pieces_text {run : List Char} (h : ∀ c ∈ run, c != '%') (cs : List Char) :
    let others := writeAll (pieces cs) args
    writeAll (pieces (run ++ cs)) args = (run ++ others.1, others.2) := by
  rw [writeAll_pieces_takeWhile args (run ++ cs), List.takeWhile_append_of_pos h,
    List.dropWhile_append_of_pos h, writeAll_pieces_takeWhile args cs]
  simp

/-- A template that ends in no specification, and then another one. -/
theorem writeAll_pieces_append {front : List Char} (h : Piece.stray .atEnd ∉ pieces front)
    (back : List Char) :
    let first := writeAll (pieces front) args
    let second := writeAll (pieces back) first.2
    writeAll (pieces (front ++ back)) args = (first.1 ++ second.1, second.2) := by
  fun_induction pieces front generalizing args with
  | case1 => rfl
  | case2 rest ih =>
    have hrest := ih args fun hmem => h (List.mem_cons_of_mem _ hmem)
    simp [pieces_percent, writeAll, Piece.write, hrest]
  | case3 rest hdouble spec rest' hscan _ ih =>
    have hrest := ih (spec.write args).2 fun hmem => h (List.mem_cons_of_mem _ hmem)
    have hmore : scanSpec (rest ++ back) = .ok (spec, rest' ++ back) := by
      rw [scanSpec_append (by simp [hscan]), hscan]
      rfl
    rw [List.cons_append, pieces_directive (not_double_append hdouble (by simp [hscan])) hmore]
    simp [writeAll, Piece.write, hrest]
  | case4 rest hdouble why hscan ih =>
    have hrest := ih args fun hmem => h (List.mem_cons_of_mem _ hmem)
    have hletter : scanSpec rest ≠ .error .atEnd := by
      rw [hscan]
      rintro ⟨⟩
      exact h List.mem_cons_self
    have hmore : scanSpec (rest ++ back) = .error why := by
      rw [scanSpec_append hletter, hscan]
      rfl
    rw [List.cons_append, pieces_stray (not_double_append hdouble hletter) hmore]
    simp [writeAll, Piece.write, hrest]
  | case5 c rest hdouble hc ih =>
    have hrest := ih args fun hmem => h (List.mem_cons_of_mem _ hmem)
    have hrun : ∀ d ∈ c :: rest.takeWhile (· != '%'), d != '%' :=
      List.forall_mem_cons.2 ⟨bne_iff_ne.2 hc, List.all_eq_true.1 List.all_takeWhile⟩
    have hsplit : c :: rest ++ back =
        (c :: rest.takeWhile (· != '%')) ++ (rest.dropWhile (· != '%') ++ back) := by
      rw [List.cons_append, List.cons_append, ← List.append_assoc, List.takeWhile_append_dropWhile]
    rw [hsplit, writeAll_pieces_text args hrun, hrest]
    simp [writeAll, Piece.write]

/-! ## Whole templates -/

/-- No specification breaks off at the end of the template. -/
def Closed (template : String) : Prop := Piece.stray .atEnd ∉ pieces template.toList

instance (template : String) : Decidable (Closed template) :=
  inferInstanceAs (Decidable (Piece.stray .atEnd ∉ pieces template.toList))

/-- A template that is closed is rendered as it is alone, and the template behind it as if the
payload were the words that are left.  What the two took and missed is added. -/
theorem format_append {front : String} (h : Closed front) (back : String) (words : List UInt32) :
    let first := format front words
    let second := format back (words.drop (demand front))
    format (front ++ back) words =
      ⟨first.text ++ second.text, first.consumed + second.consumed,
        first.missing + second.missing⟩ := by
  intro first second
  have hfirst : (writeAll (pieces front.toList) { words }).2 =
      Arguments.after { words } (demand front) := writeAll_snd (scanned_pieces _) _
  have hsecond : (writeAll (pieces back.toList) (Arguments.after { words } (demand front))).2 =
      (Arguments.after { words } (demand front)).after (demand back) :=
    writeAll_snd (scanned_pieces _) _
  have hwritten := writeAll_pieces_append { words } h back.toList
  dsimp only at hwritten
  rw [hfirst, hsecond, writeAll_pieces_after] at hwritten
  rw [format, String.toList_append, hwritten]
  simp only [Rendered.mk.injEq]
  refine ⟨String.ofList_append, ?_, ?_⟩
  · simp [first, second, consumed_format, Arguments.after]
  · simp [first, second, missing_format, Arguments.after]

theorem format_append_stars :
    Closed "é%*d%%" ∧ format ("é%*d%%" ++ "%x") [3, 7] = ⟨"é  7%0", 2, 1⟩ := by
  have hclosed : Closed "é%*d%%" := by decide +kernel
  refine ⟨hclosed, ?_⟩
  rw [format_append hclosed]
  decide +kernel

/-- A template that is not closed may take the front of the next one for its own. -/
example : (format ("5%" ++ "d") [1]).text ≠ (format "5%" [1]).text ++ (format "d" [1]).text := by
  decide +kernel

end FirmwareTrace.Template
