import Abacus.Proofs.Shell.Output

/-! # Streams that take only so much

  A stream with a limit takes the first bytes that are written to it, and fails with the rest. The run
  stops at the first piece of text that does not fit on its stream, whichever of the two that is; only
  the complaint follows, as far as the error stream still takes it. So a run with limits is either the
  whole run or a clean cut of it (`run_limited`), and what comes after the cut has no influence.

  Input that cannot be read needs no case of its own: the complaint about it is written like any other
  piece of text, and after it the run is over.
-/

namespace Abacus.Shell

/-! ### One stream -/

namespace Sink

variable {limit : Nat} {written bytes : List UInt8}

/-- The stream that takes so many bytes, after the given bytes were written to it. -/
def limited (limit : Nat) (written : List UInt8) : Sink :=
  ⟨some limit, written.take limit⟩

theorem fits_limited :
    (limited limit written).fits bytes = bytes.take (limit - written.length) := by
  have hroom : limit - min limit written.length = limit - written.length := by omega
  show bytes.take (limit - (written.take limit).length) = _
  rw [List.length_take, hroom]

/-- A stream holds the first bytes of all that was written to it. -/
theorem taken_append_fits :
    (limited limit written).taken ++ (limited limit written).fits bytes =
      (limited limit (written ++ bytes)).taken := by
  rw [fits_limited, limited, limited, List.take_append]

/-- Whether a write succeeds or fails, the stream has its first bytes. -/
theorem write_limited :
    (limited limit written).write bytes =
      if ((limited limit written).fits bytes).length = bytes.length then
        .ok (limited limit (written ++ bytes))
      else .error (limited limit (written ++ bytes)) := by
  unfold write
  dsimp only
  rw [taken_append_fits]
  rfl

/-- A write succeeds if all that was written fits on the stream. -/
theorem write_limited_of_le (h : (written ++ bytes).length ≤ limit) :
    (limited limit written).write bytes = .ok (limited limit (written ++ bytes)) := by
  rw [List.length_append] at h
  rw [write_limited, fits_limited, List.take_of_length_le (by omega), if_pos rfl]

/-- A write fails if what came before fits on the stream, and with it no longer does. -/
theorem write_limited_of_lt (hbefore : written.length ≤ limit)
    (h : limit < (written ++ bytes).length) :
    (limited limit written).write bytes = .error (limited limit (written ++ bytes)) := by
  rw [List.length_append] at h
  have hfits : ((limited limit written).fits bytes).length ≠ bytes.length := by
    rw [fits_limited, List.length_take]
    omega
  rw [write_limited, if_neg hfits]

end Sink

/-! ### Both streams -/

/-- Whether the pieces of text fit on two streams that take `n` and `m` bytes. -/
def Fits (n m : Nat) (ws : List Write) : Prop :=
  (shown .out ws).length ≤ n ∧ (shown .err ws).length ≤ m

/-- The piece of text that comes after `front` is the first that does not fit. -/
structure Overflows (n m : Nat) (front : List Write) (w : Write) : Prop where
  /-- What comes before it fits. -/
  before : Fits n m front
  /-- With it, its stream is to take too much. -/
  piece : ¬Fits n m (front ++ [w])

variable {n m : Nat} {front ws ws' : List Write} {w : Write} {stream : Stream}

theorem shown_concat_of_eq (h : w.stream = stream) :
    shown stream (ws ++ [w]) = shown stream ws ++ encode w.text := by
  simp [shown, h]

theorem shown_concat_of_ne (h : w.stream ≠ stream) :
    shown stream (ws ++ [w]) = shown stream ws := by
  simp [shown, h]

theorem shown_prefix_shown (stream : Stream) (h : ws <+: ws') :
    shown stream ws <+: shown stream ws' := by
  obtain ⟨rest, rfl⟩ := h
  rw [shown_append]
  exact List.prefix_append _ _

/-- What comes first fits if the whole does. -/
theorem Fits.of_append (h : Fits n m (ws ++ ws')) : Fits n m ws := by
  have hws : ws <+: ws ++ ws' := List.prefix_append ws ws'
  exact ⟨Nat.le_trans (shown_prefix_shown .out hws).length_le h.1,
    Nat.le_trans (shown_prefix_shown .err hws).length_le h.2⟩

namespace Terminal

/-- Two streams that take `n` and `m` bytes, after the pieces of text were written to them. -/
def limited (n m : Nat) (ws : List Write) : Terminal :=
  ⟨.limited n (shown .out ws), .limited m (shown .err ws)⟩

/-- A piece of text for the output changes only the output. -/
theorem limited_concat_out (h : w.stream = .out) :
    limited n m (ws ++ [w]) =
      (limited n m ws).withOut (.limited n (shown .out ws ++ encode w.text)) := by
  have hne : w.stream ≠ .err := by simp [h]
  rw [limited, shown_concat_of_eq h, shown_concat_of_ne hne]
  rfl

/-- A piece of text for the error stream changes only the error stream. -/
theorem limited_concat_err (h : w.stream = .err) :
    limited n m (ws ++ [w]) =
      (limited n m ws).withErr (.limited m (shown .err ws ++ encode w.text)) := by
  have hne : w.stream ≠ .out := by simp [h]
  rw [limited, shown_concat_of_eq h, shown_concat_of_ne hne]
  rfl

/-- A line for the error stream leaves the output as it is. -/
theorem out_limited_errLine (line : String) :
    (limited n m (ws ++ [.errLine line])).out.taken = (shown .out ws).take n := by
  have hne : (Write.errLine line).stream ≠ .out := by simp [Write.errLine]
  rw [limited, shown_concat_of_ne hne]
  rfl

/-- The error stream takes what it can of a line. -/
theorem err_limited_errLine (line : String) :
    (limited n m (ws ++ [.errLine line])).err.taken =
      (shown .err ws ++ encode (line ++ "\n")).take m := by
  rw [limited_concat_err rfl]
  rfl

/-- What fits is written. -/
theorem write_limited_of_fits (h : Fits n m (ws ++ [w])) :
    (limited n m ws).write w = .ok (limited n m (ws ++ [w])) := by
  obtain ⟨hout, herr⟩ := h
  unfold write
  cases hw : w.stream with
  | out =>
    rw [shown_concat_of_eq hw] at hout
    rw [limited_concat_out hw]
    exact congrArg (mapBoth _) (Sink.write_limited_of_le hout)
  | err =>
    rw [shown_concat_of_eq hw] at herr
    rw [limited_concat_err hw]
    exact congrArg (mapBoth _) (Sink.write_limited_of_le herr)

/-- The first piece of text that does not fit is cut off, and writing it fails. -/
theorem write_limited_of_overflows (h : Overflows n m ws w) :
    (limited n m ws).write w = .error (limited n m (ws ++ [w])) := by
  obtain ⟨⟨hout, herr⟩, hpiece⟩ := h
  unfold Fits at hpiece
  unfold write
  cases hw : w.stream with
  | out =>
    rw [shown_concat_of_eq hw, shown_concat_of_ne (by simp [hw])] at hpiece
    rw [limited_concat_out hw]
    exact congrArg (mapBoth _) (Sink.write_limited_of_lt hout (by omega))
  | err =>
    rw [shown_concat_of_eq hw, shown_concat_of_ne (by simp [hw])] at hpiece
    rw [limited_concat_err hw]
    exact congrArg (mapBoth _) (Sink.write_limited_of_lt herr (by omega))

/-- A complaint is written as far as the error stream takes it. -/
theorem complain_limited (reason : String) :
    (limited n m ws).complain reason =
      limited n m (ws ++ [.errLine ("I/O error: " ++ reason)]) := by
  have hwrite : (limited n m ws).write (.errLine ("I/O error: " ++ reason)) =
      mapBoth (limited n m ws).withErr ((Sink.limited m (shown .err ws)).write
        (encode (Write.errLine ("I/O error: " ++ reason)).text)) := rfl
  rw [limited_concat_err rfl, complain, hwrite, Sink.write_limited]
  split
  next hok =>
    split at hok
    · cases hok
      rfl
    · cases hok
  next herror =>
    split at herror
    · cases herror
    · cases herror
      rfl

/-- Pieces of text are written as long as they fit. -/
theorem writeAll_limited_of_fits (h : Fits n m (ws ++ ws')) :
    (limited n m ws).writeAll ws' = .ok (limited n m (ws ++ ws')) := by
  induction ws' generalizing ws with
  | nil =>
    rw [List.append_nil]
    rfl
  | cons w ws' ih =>
    rw [List.append_cons] at h ⊢
    have hw : Fits n m (ws ++ [w]) := h.of_append
    rw [writeAll, List.foldlM_cons, write_limited_of_fits hw]
    exact ih h

/-- Pieces of text are written up to the first that does not fit. -/
theorem writeAll_limited_of_overflows (h : Overflows n m (ws ++ front) w) (rest : List Write) :
    (limited n m ws).writeAll (front ++ w :: rest) = .error (limited n m (ws ++ front ++ [w])) := by
  have hfront : (limited n m ws).writeAll front = .ok (limited n m (ws ++ front)) :=
    writeAll_limited_of_fits h.before
  unfold writeAll at hfront ⊢
  rw [List.foldlM_append, hfront]
  show List.foldlM write _ (w :: rest) = _
  rw [List.foldlM_cons, write_limited_of_overflows h]
  rfl

end Terminal

/-! ### Whole runs -/

/-- All that a run writes, the complaint about unreadable input included. -/
def Run.allWrites (r : Run) : List Write :=
  r.writes ++ r.ending.writes

/-- If the pieces of text do not all fit, there is a first one that does not. -/
theorem exists_overflows (hws : Fits n m ws) (h : ¬Fits n m (ws ++ ws')) :
    ∃ front w, front ++ [w] <+: ws' ∧ Overflows n m (ws ++ front) w := by
  induction ws' generalizing ws with
  | nil =>
    rw [List.append_nil] at h
    exact absurd hws h
  | cons w ws' ih =>
    by_cases hw : Fits n m (ws ++ [w])
    · rw [List.append_cons] at h
      obtain ⟨front, w', hprefix, hoverflows⟩ := ih hw h
      refine ⟨w :: front, w', List.cons_prefix_cons.mpr ⟨rfl, hprefix⟩, ?_⟩
      rw [List.append_cons]
      exact hoverflows
    · refine ⟨[], w, List.cons_prefix_cons.mpr ⟨rfl, List.nil_prefix⟩, ?_⟩
      rw [List.append_nil]
      exact ⟨hws, hw⟩

theorem fits_nil : Fits n m [] :=
  ⟨Nat.zero_le n, Nat.zero_le m⟩

namespace Terminal

/-- A full error stream takes no complaint. -/
theorem limited_concat_of_overflows {w' : Write} (h : Overflows n m front w)
    (hw : w.stream = .err) (hw' : w'.stream = .err) :
    limited n m (front ++ [w] ++ [w']) = limited n m (front ++ [w]) := by
  obtain ⟨⟨hout, herr⟩, hpiece⟩ := h
  unfold Fits at hpiece
  have hne : w.stream ≠ .out := by simp [hw]
  rw [shown_concat_of_ne hne] at hpiece
  have hfull : m ≤ (shown .err (front ++ [w])).length := by omega
  have htake : (shown .err (front ++ [w]) ++ encode w'.text).take m =
      (shown .err (front ++ [w])).take m :=
    List.take_append_of_le_length hfull
  rw [limited_concat_err hw', Sink.limited, htake]
  rfl

/-- A run that fits on the streams is carried out as a whole. -/
theorem perform_limited_of_fits {r : Run} (h : Fits n m r.allWrites) :
    (fresh (some n) (some m)).perform r = (r.ending.status, limited n m r.allWrites) := by
  obtain ⟨writes, ending⟩ := r
  have hfresh : fresh (some n) (some m) = limited n m [] := by
    simp [fresh, limited, Sink.fresh, Sink.limited]
  have hwrites : (limited n m []).writeAll writes = .ok (limited n m writes) :=
    writeAll_limited_of_fits h.of_append
  rw [perform, hfresh, hwrites]
  cases ending with
  | exit status => simp [Run.allWrites, Ending.writes, Ending.status]
  | unreadable reason =>
    simp only [Run.allWrites, Ending.writes, Ending.status, complain_limited]

/-- A run is carried out up to the first piece of text that does not fit, whatever comes after it. -/
theorem perform_limited_of_overflows {r : Run} (h : Overflows n m front w)
    (hr : front ++ [w] <+: r.allWrites) :
    (fresh (some n) (some m)).perform r =
      (.ioError, limited n m (front ++ [w] ++ [.errLine ("I/O error: " ++ sinkFull)])) := by
  obtain ⟨writes, ending⟩ := r
  have hfresh : fresh (some n) (some m) = limited n m [] := by
    simp [fresh, limited, Sink.fresh, Sink.limited]
  -- A piece that the run itself writes, or the complaint about its input.
  have hcases : front ++ [w] <+: writes ∨
      ∃ reason, ending = .unreadable reason ∧ front = writes ∧
        w = .errLine ("I/O error: " ++ reason) := by
    cases ending with
    | exit status =>
      left
      simpa [Run.allWrites, Ending.writes] using hr
    | unreadable reason =>
      rcases List.prefix_concat_iff.mp hr with heq | hprefix
      · obtain ⟨rfl, hw⟩ := List.append_inj' heq rfl
        exact .inr ⟨reason, rfl, rfl, List.singleton_inj.mp hw⟩
      · exact .inl hprefix
  rcases hcases with ⟨rest, rfl⟩ | ⟨reason, rfl, rfl, rfl⟩
  · have hwrites : (limited n m []).writeAll (front ++ w :: rest) =
        .error (limited n m (front ++ [w])) := writeAll_limited_of_overflows h rest
    rw [perform, hfresh, ← List.append_cons, hwrites]
    simp only [complain_limited]
  · have hwrites : (limited n m []).writeAll front = .ok (limited n m front) :=
      writeAll_limited_of_fits h.before
    rw [perform, hfresh, hwrites]
    simp only [complain_limited]
    rw [limited_concat_of_overflows h rfl rfl]

/-- A run that fits leaves all of its output. -/
theorem streams_of_fits {r : Run} (h : Fits n m r.allWrites) :
    ((fresh (some n) (some m)).perform r).1.code = r.code ∧
      ((fresh (some n) (some m)).perform r).2.out.taken = r.stdout ∧
      ((fresh (some n) (some m)).perform r).2.err.taken = r.stderr := by
  rw [perform_limited_of_fits h, Run.code_eq, Run.stdout_eq, Run.stderr_eq]
  exact ⟨rfl, List.take_of_length_le h.1, List.take_of_length_le h.2⟩

/-- A run that does not fit leaves what it wrote up to the cut, and the complaint. -/
theorem streams_of_overflows {r : Run} (h : Overflows n m front w)
    (hr : front ++ [w] <+: r.allWrites) :
    ((fresh (some n) (some m)).perform r).1.code = 74 ∧
      ((fresh (some n) (some m)).perform r).2.out.taken = (shown .out (front ++ [w])).take n ∧
      ((fresh (some n) (some m)).perform r).2.err.taken =
        (shown .err (front ++ [w]) ++ encode "I/O error: sink full\n").take m := by
  rw [perform_limited_of_overflows h hr]
  exact ⟨rfl, out_limited_errLine _, err_limited_errLine _⟩

end Terminal

/-- **A clean cut.** Let the output take `n` bytes and the error stream `m`. A run that stays within
    these limits is the run without limits. Any other run ends with code 74 at the first piece of
    text that does not fit: it leaves the first `n` and `m` bytes of what it was to write up to there,
    and on the error stream the complaint as far as that fits, too. All runs that begin with these
    pieces end in the same way, so nothing after them counts. -/
theorem run_limited (arguments : List String) (input : List UInt8) (n m : Nat) :
    let whole : Run := run arguments (readLines input)
    let cut := (Terminal.fresh (some n) (some m)).perform whole
    (whole.stdout.length ≤ n ∧ whole.stderr.length ≤ m →
      cut.1.code = whole.code ∧ cut.2.out.taken = whole.stdout ∧
        cut.2.err.taken = whole.stderr) ∧
    (¬(whole.stdout.length ≤ n ∧ whole.stderr.length ≤ m) →
      cut.1.code = 74 ∧ cut.2.out.taken <+: whole.stdout ∧ cut.2.out.taken.length ≤ n ∧
      ∃ front w, front ++ [w] <+: whole.allWrites ∧ Overflows n m front w ∧
        cut.2.out.taken = (shown .out (front ++ [w])).take n ∧
        shown .err (front ++ [w]) <+: whole.stderr ∧
        cut.2.err.taken =
          (shown .err (front ++ [w]) ++ encode "I/O error: sink full\n").take m ∧
        ∀ other : Run, front ++ [w] <+: other.allWrites →
          (Terminal.fresh (some n) (some m)).perform other = cut) ∧
    (cut.1.code ≠ 74 → cut.2.out.taken = whole.stdout ∧ cut.2.err.taken = whole.stderr) := by
  intro whole cut
  have hout : whole.stdout = shown .out whole.allWrites := Run.stdout_eq whole
  have herr : whole.stderr = shown .err whole.allWrites := Run.stderr_eq whole
  have hlimits : whole.stdout.length ≤ n ∧ whole.stderr.length ≤ m ↔ Fits n m whole.allWrites := by
    rw [hout, herr]
    rfl
  have hcomplete : Fits n m whole.allWrites →
      cut.1.code = whole.code ∧ cut.2.out.taken = whole.stdout ∧
        cut.2.err.taken = whole.stderr := Terminal.streams_of_fits
  rw [hlimits]
  by_cases hfits : Fits n m whole.allWrites
  · exact ⟨hcomplete, fun h => absurd hfits h, fun _ => (hcomplete hfits).2⟩
  obtain ⟨front, w, hprefix, hoverflows⟩ :
      ∃ front w, front ++ [w] <+: whole.allWrites ∧ Overflows n m front w :=
    exists_overflows fits_nil hfits
  obtain ⟨hcode, hcutOut, hcutErr⟩ := Terminal.streams_of_overflows hoverflows hprefix
  refine ⟨hcomplete, fun _ => ⟨hcode, ?_, ?_, front, w, hprefix, hoverflows, hcutOut, ?_, hcutErr,
    ?_⟩, fun h => absurd hcode h⟩
  · rw [hcutOut, hout]
    exact (List.take_prefix _ _).trans (shown_prefix_shown .out hprefix)
  · rw [hcutOut, List.length_take]
    exact Nat.min_le_left _ _
  · rw [herr]
    exact shown_prefix_shown .err hprefix
  · intro other hother
    have hcut : cut = (.ioError, _) := Terminal.perform_limited_of_overflows hoverflows hprefix
    rw [hcut]
    exact Terminal.perform_limited_of_overflows hoverflows hother

/-- The second value is cut after its first digit, and the complaint about that in its middle. -/
example :
    let whole : Run := run [] (readLines (encode "1+1\n6*7\n8*9\n"))
    let cut := (Terminal.fresh (some 9) (some 15)).perform whole
    whole.stdout = encode ">> 2\n>> 42\n>> 72\n>> \n" ∧ whole.stderr = [] ∧
      cut.1.code = 74 ∧ cut.2.out.taken = encode ">> 2\n>> 4" ∧
      cut.2.err.taken = encode "I/O error: sink" := by
  decide +kernel

end Abacus.Shell
