import IrradianceField.Atlas.Guillotine
import IrradianceField.Datum.Query
import IrradianceField.Description.Atlas
import IrradianceField.Description.Probes
import IrradianceField.Description.Scene
import IrradianceField.Proofs.Checked
import IrradianceField.Renderer.Rendering
import IrradianceField.Renderer.Requirements
import IrradianceField.Renderer.Shaders
import IrradianceField.Renderer.Upload
import IrradianceField.Report.Atlas
import IrradianceField.Report.Commands
import IrradianceField.Report.Lighting
import IrradianceField.Simulation
import IrradianceField.Proofs.Addressing
import IrradianceField.Proofs.Classification
import IrradianceField.Proofs.ActiveSet
import IrradianceField.Proofs.Edits
import IrradianceField.Proofs.Tracing
import IrradianceField.Proofs.Updating
import IrradianceField.Proofs.Batching
import IrradianceField.Proofs.Coverage
import IrradianceField.Proofs.Batches
import IrradianceField.Proofs.ListOrder
import IrradianceField.Proofs.Scrolling
import IrradianceField.Proofs.Borders
import IrradianceField.Proofs.Frames
import IrradianceField.Proofs.FrameLogs
import IrradianceField.Proofs.History
import IrradianceField.Proofs.Completion
import IrradianceField.Proofs.Allotting
import IrradianceField.Proofs.ChunkGrid
import IrradianceField.Proofs.Culling
import IrradianceField.Proofs.Ledgers
import IrradianceField.Proofs.Registering
import IrradianceField.Proofs.Requests
import IrradianceField.Proofs.Serializing
import IrradianceField.Proofs.Flushing
import IrradianceField.Proofs.Replaying
import IrradianceField.Proofs.Mirroring
import IrradianceField.Scalar.Real
import IrradianceField.Proofs.Bounding
import IrradianceField.Proofs.Visibility
import IrradianceField.Proofs.Holding
import IrradianceField.Proofs.Placing
import IrradianceField.Proofs.Uploading
import IrradianceField.Proofs.Moments
import IrradianceField.Proofs.DistanceAtlas
import IrradianceField.Proofs.Fetching
import IrradianceField.Proofs.Numbering
import IrradianceField.Proofs.Skipping
import IrradianceField.Proofs.Binding
import IrradianceField.Proofs.Framing
import IrradianceField.Proofs.Furnace
import IrradianceField.Proofs.Sampling
import IrradianceField.Proofs.Spreading
import IrradianceField.Proofs.WhiteFurnace
import IrradianceField.Proofs.Moving
import IrradianceField.Proofs.Replacing
import IrradianceField.Proofs.Leaping
import IrradianceField.Proofs.Validating
import IrradianceField.Proofs.Bordering
import IrradianceField.Proofs.Seaming
import IrradianceField.Proofs.Centering
import IrradianceField.Proofs.Supplying
import IrradianceField.Proofs.Overlooking
import IrradianceField.Proofs.Averaging
import IrradianceField.Proofs.Nesting
import IrradianceField.Proofs.Compositing
import IrradianceField.Proofs.Marching
import IrradianceField.Proofs.Rounding
import IrradianceField.Proofs.Storing
import IrradianceField.Proofs.Magnitudes
import IrradianceField.Proofs.Lookups
import IrradianceField.Proofs.Relighting
import IrradianceField.Proofs.Reproducing
import IrradianceField.Proofs.Viewing
import IrradianceField.Proofs.Projecting
import IrradianceField.Proofs.Weighing
import IrradianceField.Proofs.Blending
import IrradianceField.Proofs.Ordering
import IrradianceField.Proofs.Relocating
import IrradianceField.Proofs.Settling
import IrradianceField.Proofs.Directing
import IrradianceField.Proofs.Embedding
import IrradianceField.Proofs.Following
