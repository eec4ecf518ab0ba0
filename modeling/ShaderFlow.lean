import ShaderFlow.Gpu.Source
import ShaderFlow.Graph.Order
import ShaderFlow.Headless.Backend
import ShaderFlow.Json.Reader
import ShaderFlow.Json.Writer
import ShaderFlow.Render.FrameRun
import ShaderFlow.Render.WindowConfig
import ShaderFlow.Shader.Descriptor
import ShaderFlow.Shader.Library
import ShaderFlow.Proofs.Graph.Arena
import ShaderFlow.Proofs.Graph.BoundedVisit
import ShaderFlow.Proofs.Graph.Traversal
import ShaderFlow.Proofs.Graph.PostOrder
import ShaderFlow.Proofs.Graph.Renumbering
import ShaderFlow.Proofs.Shader.StageMeaning
import ShaderFlow.Proofs.Shader.Authoring
import ShaderFlow.Proofs.Shader.Masks
import ShaderFlow.Proofs.Shader.Linking
import ShaderFlow.Proofs.Shader.VaryTypes
import ShaderFlow.Proofs.Shader.Spelling
import ShaderFlow.Proofs.Shader.WellFormed
import ShaderFlow.Proofs.Shader.ModuleText
import ShaderFlow.Proofs.Shader.ModuleScope
import ShaderFlow.Proofs.Shader.Declarations
import ShaderFlow.Proofs.Shader.NameResolution
import ShaderFlow.Proofs.Shader.FreshNames
import ShaderFlow.Proofs.Shader.SourceDetermines
import ShaderFlow.Proofs.Shader.Manifests
import ShaderFlow.Proofs.Shader.Emission
import ShaderFlow.Proofs.Shader.NodeIdentity
import ShaderFlow.Proofs.Shader.FunctionText
import ShaderFlow.Proofs.Shader.BodyText
import ShaderFlow.Proofs.Shader.FunctionSection
import ShaderFlow.Proofs.Shader.Alike
import ShaderFlow.Proofs.Shader.BindOrder
import ShaderFlow.Proofs.Shader.Unreached
import ShaderFlow.Proofs.Shader.Renumbering
import ShaderFlow.Proofs.Shader.EngineNames
import ShaderFlow.Proofs.Shader.UniformLayout
import ShaderFlow.Proofs.Json.Grammar
import ShaderFlow.Proofs.Shader.LibraryText
import ShaderFlow.Proofs.Gpu.ProgramCache
import ShaderFlow.Proofs.Gpu.CommandOrder
import ShaderFlow.Proofs.Gpu.FrameRefinement
import ShaderFlow.Proofs.Gpu.Attachments
import ShaderFlow.Proofs.Gpu.DrawingArea
import ShaderFlow.Proofs.Render.FrameAuthoring
import ShaderFlow.Proofs.Render.Contribution
import ShaderFlow.Proofs.Render.DebugLayout
import ShaderFlow.Proofs.Headless.DataFlow
import ShaderFlow.Proofs.Headless.DrawStates
import ShaderFlow.Proofs.Headless.History
import ShaderFlow.Proofs.Headless.Allocations
import ShaderFlow.Proofs.Gpu.VertexFields
import ShaderFlow.Proofs.Gpu.VertexFeeding
import ShaderFlow.Proofs.Gpu.UniformWrites
import ShaderFlow.Proofs.Headless.FailingFrame
import ShaderFlow.Proofs.Headless.Replay
import ShaderFlow.Proofs.Gpu.TextureWiring
