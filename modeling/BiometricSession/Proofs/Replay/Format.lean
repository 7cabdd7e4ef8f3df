import BiometricSession.Proofs.Config.RoundTrip
import BiometricSession.Proofs.Json.Printer
import BiometricSession.Proofs.Replay.LineText

/-!
# What the output of a replay tells

In both formats a line of a replay is written as one line of output, which tells
the line.  So the whole output of a replay tells the lines of the replay.
-/

namespace BiometricSession

/-! ## Lines as JSON -/

theorem Data.int32_inj {value other : Int32} :
    Data.int32 value = .int32 other ↔ value = other := by
  simp [Data.int32, Int32.toInt_inj]

theorem Data.uint64_inj {value other : UInt64} :
    Data.uint64 value = .uint64 other ↔ value = other := by
  simp [Data.uint64, UInt64.toNat_inj]

theorem Json.plain_table_iff {entries : List (String × Data)} :
    Plain (.table entries) ↔ ∀ entry ∈ entries, Plain entry.2 := by
  constructor
  · rintro ⟨⟩
    assumption
  · exact .table

theorem Delivery.encode_injective : Function.Injective encode := by
  intro event other same
  cases event <;> cases other <;> simp_all [encode, Data.int32_inj, Data.uint64_inj]

theorem Delivery.plain_encode (event : Delivery) : Json.Plain event.encode := by
  cases event <;>
    simp [encode, Json.plain_table_iff, Json.Plain.text, Data.int32, Data.uint64,
      Json.Plain.integer]

namespace ReplayLine

theorem encode_injective : Function.Injective encode := by
  intro line other same
  cases line <;> cases other <;>
    simp_all [encode, Data.int32_inj, ClientKind.name_injective.eq_iff,
      Callback.name_injective.eq_iff, ReplayRequest.name_injective.eq_iff,
      HapticEffect.inspect_injective.eq_iff, Delivery.encode_injective.eq_iff]

theorem plain_encode (line : ReplayLine) : Json.Plain line.encode := by
  cases line <;>
    simp [encode, Json.plain_table_iff, Json.Plain.text, Json.Plain.bool, Data.int32,
      Json.Plain.integer, Delivery.plain_encode]

end ReplayLine

/-! ## Outputs -/

namespace OutputFormat

variable (format : OutputFormat)

theorem write_injective : Function.Injective format.write := by
  cases format with
  | text => exact ReplayLine.text_injective
  | json =>
      intro line other same
      exact ReplayLine.encode_injective
        (Json.print_inj line.plain_encode other.plain_encode same)

theorem newline_not_mem_write (line : ReplayLine) : '\n' ∉ (format.write line).toList := by
  cases format with
  | text => exact line.newline_not_mem_text
  | json =>
      change '\n' ∉ (String.ofList (Json.characters line.encode)).toList
      rw [String.toList_ofList]
      exact line.plain_encode.newline_not_mem

/-- The lines of a replay, each written with its end. -/
def page (lines : List ReplayLine) : String :=
  String.join (lines.map fun line => format.write line ++ "\n")

theorem toList_page (lines : List ReplayLine) :
    (format.page lines).toList =
      lines.flatMap fun line => (format.write line).toList ++ ['\n'] := by
  simp [page, String.toList_join, List.flatMap_map]

theorem page_injective : Function.Injective format.page := by
  have ending (rest) : Text.Leaves (· != '\n') ('\n' :: rest) := Text.leaves_cons (by decide) rest
  have inside (line) : ∀ character ∈ (format.write line).toList, (character != '\n') = true := by
    intro character isMember
    rw [bne_iff_ne]
    rintro rfl
    exact format.newline_not_mem_write line isMember
  intro lines others same
  have texts := congrArg String.toList same
  rw [toList_page, toList_page] at texts
  clear same
  induction lines generalizing others with
  | nil =>
      cases others with
      | nil => rfl
      | cons other others => simp at texts
  | cons line lines ih =>
      cases others with
      | nil => simp at texts
      | cons other others =>
          simp only [List.flatMap_cons, List.append_assoc, List.singleton_append] at texts
          obtain ⟨first, rest⟩ := Text.block_append_inj (inside line) (inside other) (ending _)
            (ending _) texts
          rw [format.write_injective (String.toList_injective first),
            ih (List.cons.inj rest).2]

theorem count_newline_page (lines : List ReplayLine) :
    (format.page lines).toList.count '\n' = lines.length := by
  rw [toList_page]
  induction lines with
  | nil => rfl
  | cons line lines ih =>
      rw [List.flatMap_cons, List.count_append, ih, List.count_append,
        List.count_eq_zero.mpr (format.newline_not_mem_write line)]
      simp [Nat.add_comm]

/-- Both formats tell everything that is shown.  Each line of a replay is written as one line
of output, no two lines are written alike, and the whole output is the same only for the
same lines; that output is what the program prints for a replay. -/
theorem output_tells_lines :
    (∀ line, '\n' ∉ (format.write line).toList) ∧
      (∀ line other, format.write line = format.write other ↔ line = other) ∧
      (∀ lines, (format.page lines).toList.count '\n' = lines.length) ∧
      (∀ lines others, format.page lines = format.page others ↔ lines = others) ∧
      ∀ (environment : Environment) (config : MonitorConfig) (script : ReplayScript)
        (owner : Option UInt32) (log : List LogRecord),
        (environment.replay config script format owner log).printed =
          format.page (script.run environment.processes config owner (fun _ => false)
            (script.clientToken owner) .initial).1.lines := by
  refine ⟨format.newline_not_mem_write, fun line other => format.write_injective.eq_iff,
    format.count_newline_page, fun lines others => format.page_injective.eq_iff, ?_⟩
  intro environment config script owner log
  simp [Environment.replay, Outcome.printed, page, Function.comp_def]

end OutputFormat

end BiometricSession
