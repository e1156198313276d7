import OnchainBacktest.Domain.RoundTripDocuments
import OnchainBacktest.Results.RoundTripScan

/-!
# Tables the output session writes

The output session of a sniping run writes a row for each record: the columns a page is found by,
and the canonical JSON of the document of the record.  Every record its constructors and the
validator admit has such a text, and the reader decodes the row to the record
(`decodes_roundtripRow`).  A table of rows in keyset order, cut into row groups anywhere, is
therefore verified by a reader of the run (`verified_of_written`).
-/

set_option autoImplicit false

namespace OnchainBacktest

open Checked

/-! ## Documents of records are canonical -/

theorem canonical_positionDocument (p : ChainPosition) :
    (Document.object (positionDocument p)).Canonical := by
  have hkeys : ((positionDocument p).map Prod.fst).IsChain (· < ·) := by
    simp only [positionDocument, List.map_cons, List.map_nil]
    decide
  refine Document.canonical_object hkeys ?_
  simp [positionDocument]

theorem canonical_liquidityDocument (value : Option QuoteLiquidityEvidenceRecord) :
    (liquidityDocument value).Canonical := by
  refine Document.canonical_optional fun e _ => ?_
  have hkeys : (e.document.map Prod.fst).IsChain (· < ·) := by
    simp only [QuoteLiquidityEvidenceRecord.document, List.map_cons, List.map_nil]
    decide
  refine Document.canonical_object hkeys ?_
  simp [QuoteLiquidityEvidenceRecord.document]

theorem canonical_legDocument (value : Option RoundTripLegRecord) :
    (legDocument value).Canonical := by
  refine Document.canonical_optional fun leg _ => ?_
  have hkeys : (leg.document.map Prod.fst).IsChain (· < ·) := by
    simp only [RoundTripLegRecord.document, List.map_cons, List.map_nil]
    decide
  refine Document.canonical_object hkeys ?_
  have hfailure : (Document.optional Document.text leg.failureCode).Canonical :=
    Document.canonical_optional fun s _ => Document.canonical_text s
  have hlanding : (Document.optional (fun p => .object (positionDocument p))
      leg.landingPosition).Canonical :=
    Document.canonical_optional fun p _ => canonical_positionDocument p
  simp [RoundTripLegRecord.document, hfailure, hlanding, canonical_positionDocument]

theorem canonical_componentDocument (r : AccountComponentRecord) :
    (Document.object r.document).Canonical := by
  have hkeys : (r.document.map Prod.fst).IsChain (· < ·) := by
    simp only [AccountComponentRecord.document, List.map_cons, List.map_nil]
    decide
  refine Document.canonical_object hkeys ?_
  simp [AccountComponentRecord.document]

/-- **The document of a record of the current schema has a canonical text.** -/
theorem RoundTripRecord.canonical_document {r : RoundTripRecord}
    (h : r.sourceSchemaId = ROUNDTRIP_RESULT_SCHEMA_V4) : r.document.Canonical := by
  have hversion : ¬ r.sourceSchemaId = ROUNDTRIP_RESULT_SCHEMA_V3 := by
    rw [h]
    decide
  rw [RoundTripRecord.document, if_neg hversion]
  have hkeys : (r.fields.map Prod.fst).IsChain (· < ·) := by
    simp only [RoundTripRecord.fields, List.map_cons, List.map_nil]
    decide
  refine Document.canonical_object hkeys ?_
  have hcomponents : (Document.array (r.accountComponents.map fun item =>
      .object item.document)).Canonical := by
    refine Document.canonical_array fun item hitem => ?_
    obtain ⟨component, _, rfl⟩ := List.mem_map.mp hitem
    exact canonical_componentDocument component
  simp [RoundTripRecord.fields, hcomponents, canonical_legDocument, canonical_liquidityDocument,
    canonical_positionDocument]

namespace Results

open PositionFamily

/-! ## Rows -/

/-- The canonical JSON of a record. -/
def recordBytes (record : RoundTripRecord) : List UInt8 :=
  (Document.canonicalJsonBytes record.document).getD []

/-- The row `append_roundtrip` writes for a record. -/
def roundtripRow (record : RoundTripRecord) : RoundTripRow where
  targetBoundaryOrdinal := PositionFamily.targetBoundary record
  roundtripId := record.roundtripId.hex
  status := record.status.value
  recordJson := recordBytes record

/-- What the output session and the codec ask of a record. -/
structure Admitted (manifest : RunManifest) (record : RoundTripRecord) : Prop where
  constructed : record.Constructed
  sides : record.SidesFit
  bare : record.DigestsBare
  valid : record.validateRoundtripRecordV4 = .ok ()
  network : record.networkId = manifest.networkId
  schema : record.positionSchemaId = manifest.positionSchemaId

variable {manifest : RunManifest}

/-- **The row of a record is decoded to the record.** -/
theorem decodes_roundtripRow (hschema : manifest.roundtrips.schemaId = ROUNDTRIP_RESULT_SCHEMA_V4)
    {record : RoundTripRecord} (h : Admitted manifest record) :
    Decodes manifest (roundtripRow record) record := by
  obtain ⟨bytes, hbytes, hloads⟩ :=
    (RoundTripRecord.canonical_document (record.source_of_v4 h.valid)).exists_bytes
  have hrow : (roundtripRow record).recordJson = bytes := by
    rw [roundtripRow, recordBytes, hbytes, Option.getD_some]
  -- the empty text is the text of no document
  have hnonempty : bytes ≠ [] := by
    rintro rfl
    have hnone : Document.loads [] = none := by decide
    rw [hnone] at hloads
    cases hloads
  have hdecoded : fromDocument (ρ := RoundTripRecord) ROUNDTRIP_RESULT_SCHEMA_V4 record.document
      = .ok record := by
    have hdocument := OnchainBacktest.fromDocument_document h.constructed h.sides h.valid
    rwa [RoundTripRecord.bare_eq_self.mpr h.bare] at hdocument
  refine decodeRoundtripRow_eq_ok.mpr ⟨?_, ⟨rfl, rfl, rfl⟩, ⟨h.network, h.schema⟩, rfl, rfl⟩
  rw [hschema, hrow, decodeRecord, refuseIf_of_not hnonempty, ok_bind, hloads]
  simp only [hbytes, hdecoded, ne_eq, not_true_eq_false, refuseIf_of_not not_false, ok_bind]
  rfl

/-- The descriptor of a written table. -/
def writtenDescriptor [CanonicalStreamHash] (records : List RoundTripRecord) :
    ResultTableDescriptor where
  schemaId := ROUNDTRIP_RESULT_SCHEMA_V4
  rowCount := records.length
  canonicalDigest := CanonicalStreamHash.digest "backtest.sniping-roundtrip-stream.v4"
    (records.map recordBytes)

/-- **A written table is verified**, wherever its rows are cut into row groups. -/
theorem verified_of_written [CanonicalStreamHash] {file : RoundTripFile}
    {records : List RoundTripRecord} (hsummary : manifest.summary = .sniping)
    (hdescriptor : manifest.roundtrips = writtenDescriptor records)
    (hadmitted : ∀ record ∈ records, Admitted manifest record)
    (hordered : (records.map recordKey).Pairwise (· < ·))
    (hfile : file.schemaId = ROUNDTRIP_RESULT_SCHEMA_V4)
    (hrows : file.rows = records.map roundtripRow) : Verified manifest file records where
  schema := by
    rw [requireParquetSchema, hdescriptor, hrows, hfile]
    refine check_bind_eq_ok.mpr ⟨refuseIf_eq_ok.mpr (not_not.mpr rfl), refuseIf_eq_ok.mpr ?_⟩
    simp [writtenDescriptor]
  decoded := by
    rw [hrows, List.forall₂_map_left_iff, List.forall₂_same]
    exact fun record hrecord =>
      decodes_roundtripRow (by rw [hdescriptor]; rfl) (hadmitted record hrecord)
  family := by
    intro record _ totals htotals
    rw [hsummary] at htotals
    cases htotals
  ordered := hordered
  digest := by
    have hdomain : roundtripDomain manifest = "backtest.sniping-roundtrip-stream.v4" := by
      rw [roundtripDomain, hsummary, hdescriptor]
      exact if_pos rfl
    rw [hdomain, hrows, hdescriptor, List.map_map]
    rfl
  totals := by rw [checkTotals, hsummary]

end Results

end OnchainBacktest
