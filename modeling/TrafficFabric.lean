import TrafficFabric.Agent.Sink
import TrafficFabric.Engine.CreditRun
import TrafficFabric.Engine.Agreement
import TrafficFabric.Engine.Activity
import TrafficFabric.Engine.Ceilings
import TrafficFabric.Engine.Levels
import TrafficFabric.Engine.Delivery
import TrafficFabric.Engine.Restarts
import TrafficFabric.Engine.Eviction
import TrafficFabric.Engine.Resubmission
import TrafficFabric.Engine.Booking
import TrafficFabric.Engine.Rejections
import TrafficFabric.Store.Compaction
import TrafficFabric.Engine.Bursts
import TrafficFabric.Engine.Fingerprints
import TrafficFabric.Engine.Listing
import TrafficFabric.Engine.Reinspection
import TrafficFabric.Engine.Trimming
import TrafficFabric.Engine.Renewal
import TrafficFabric.Engine.Dates
import TrafficFabric.Wire.Channel
import TrafficFabric.Service.Startup
import TrafficFabric.Consumption
import TrafficFabric.Polling
import TrafficFabric.Engine.Catalogue
import TrafficFabric.Engine.Lookup
import TrafficFabric.Streaming
import TrafficFabric.Utf8
