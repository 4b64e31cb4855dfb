import PictureTransfer.Catalog
import PictureTransfer.Proofs.DataStream

/-!
# The datasets of the legacy camera

The catalog has seven datasets. Each fits into two transfers (`length_le_of_lookup`), and none of
the transfers that carry one is as long as a RESPONSE (`length_transfer_ne`), so that a host which
looks at a single transfer never takes a piece of DATA for a RESPONSE.
-/

namespace PictureTransfer.Legacy

/-- The datasets of the catalog. -/
def datasets : List Bytes :=
  [Catalog.deviceInfo, Catalog.storageIds, storageInfo, [0, 0, 0, 0], List.replicate 8 0,
   Catalog.vendorProperties, Catalog.vendorDescriptions]

variable {code : UInt16} {payload : Bytes}

theorem mem_datasets (h : Catalog.lookup code = some payload) : payload ∈ datasets := by
  simp only [Catalog.lookup] at h
  -- one case for each operation of the catalog
  repeat' split at h
  all_goals cases h
  all_goals simp [datasets]

/-- Every dataset fits into two transfers. -/
theorem length_le_of_lookup (h : Catalog.lookup code = some payload) : payload.length ≤ 1011 := by
  have all : ∀ payload ∈ datasets, payload.length ≤ 1011 := by decide +kernel
  exact all payload (mem_datasets h)

/-- No dataset fills its last transfer but for a header. -/
theorem length_mod_of_lookup (h : Catalog.lookup code = some payload) :
    payload.length % transferSize ≠ 0 := by
  have all : ∀ payload ∈ datasets, payload.length % transferSize ≠ 0 := by decide +kernel
  exact all payload (mem_datasets h)

/-- No transfer of a dataset is as long as a RESPONSE. -/
theorem length_transfer_ne (h : Catalog.lookup code = some payload) {tid : UInt32}
    {transfer : Bytes} (listed : transfer ∈ containerTransfers (dataContainer code tid payload)) :
    transfer.length ≠ Header.standardLength := by
  have left_over := length_mod_of_lookup h
  have size := length_of_mem_containerTransfers listed
  rw [dataContainer, length_standardContainer] at size
  simp only [transferSize, Header.standardLength] at left_over size ⊢
  rcases size with full | last | rfl
  · omega
  · omega
  · exact Nat.zero_ne_add_one _

end PictureTransfer.Legacy
