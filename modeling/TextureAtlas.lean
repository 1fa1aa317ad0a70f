import TextureAtlas.Atlas.Operation
import TextureAtlas.Renderer.Bitmaps
import TextureAtlas.Proofs.Packing.Places
import TextureAtlas.Proofs.Atlas.Pictures
import TextureAtlas.Proofs.Packing.Room
import TextureAtlas.Proofs.Page.Lifetime
import TextureAtlas.Proofs.Page.Stacking
import TextureAtlas.Proofs.Atlas.Pages
import TextureAtlas.Proofs.Atlas.Sizing
import TextureAtlas.Proofs.Atlas.Skipping
import TextureAtlas.Proofs.Atlas.Unsent
import TextureAtlas.Proofs.Renderer.Bytes
import TextureAtlas.Proofs.Atlas.Utilization
import TextureAtlas.Proofs.Renderer.Coherence
import TextureAtlas.Proofs.Atlas.Faults
import TextureAtlas.Proofs.Packing.Grid
import TextureAtlas.Proofs.Atlas.Census
import TextureAtlas.Proofs.Atlas.Uniform
import TextureAtlas.Proofs.Atlas.Verdicts
import TextureAtlas.Proofs.Atlas.Layout
import TextureAtlas.Proofs.Renderer.Noninterference
import TextureAtlas.Proofs.Atlas.Steps
import TextureAtlas.Proofs.Atlas.Handles
import TextureAtlas.Proofs.Atlas.Dedicated
import TextureAtlas.Proofs.Atlas.Openings
import TextureAtlas.Proofs.Renderer.Trace
import TextureAtlas.Proofs.Renderer.Protocol
import TextureAtlas.Proofs.Atlas.PageLimit
import TextureAtlas.Proofs.Atlas.Freeing
import TextureAtlas.Proofs.Atlas.Accounting
import TextureAtlas.Proofs.Atlas.Labels
import TextureAtlas.Proofs.Packing.FirstFit
import TextureAtlas.Proofs.Packing.Allocation
import TextureAtlas.Proofs.Page.Insertion
import TextureAtlas.Proofs.Packing.Capacity
import TextureAtlas.Proofs.Page.Capacity
import TextureAtlas.Proofs.Page.Strides
import TextureAtlas.Proofs.Atlas.Reuse
import TextureAtlas.Proofs.Page.Removal
import TextureAtlas.Proofs.Atlas.FirstFit
import TextureAtlas.Proofs.Atlas.Catalog
import TextureAtlas.Proofs.Page.Validation
import TextureAtlas.Proofs.Label.Collisions
import TextureAtlas.Proofs.Packing.Coalescing
